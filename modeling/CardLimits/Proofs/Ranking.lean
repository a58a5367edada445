import CardLimits.Proofs.Cutoff
import CardLimits.Proofs.Serving
import Mathlib.Data.List.Sort
import Mathlib.Data.Multiset.Filter
/-!
# The rank of the cutoff

The update times of the cards that count are a multiset (`BlockTable.liveTimes`): it does
not matter in which order a store goes through its blocks.  The cutoff for a limit is the
one time of that multiset with fewer times than the limit above it and as many as the limit
from it on (`cutoff_is_ranked_time`).
-/

namespace CardLimits

/-- The time in a place is the only one with at most as many newer times as there are places
before it, and with more times than that which are as new as itself. -/
theorem Descending.eq_getElem_iff {times : List Int64} (descending : Descending times)
    {index : Nat} (inside : index < times.length) {time : Int64} :
    times.countP (fun other => time < other) ≤ index ∧
        index < times.countP (fun other => time ≤ other) ↔
      time = times[index] := by
  constructor
  · rintro ⟨few, enough⟩
    refine Int64.le_antisymm (descending.le_getElem_of_lt_countP inside enough) ?_
    refine Int64.not_lt.mp fun older => ?_
    -- If the time were older, all times up to the place would be newer than it.
    have upTo := descending.lt_countP_getElem inside
    have newer : times.countP (fun other => times[index] ≤ other) ≤
        times.countP (fun other => time < other) := by
      refine List.countP_mono_left fun other _ reaches => ?_
      exact decide_eq_true (Int64.lt_of_lt_of_le older (of_decide_eq_true reaches))
    omega
  · rintro rfl
    exact ⟨descending.countP_newer_le inside, descending.lt_countP_getElem inside⟩

namespace BlockTable

/-- The update times of the stored cards that are not deleted and whose root is no template of
their own workspace, over all workspaces. -/
def liveTimes (table : BlockTable) : Multiset Int64 :=
  ((table.blocks : Multiset Block).filter fun block =>
    block.kind = .card ∧ block.deleteAt = 0 ∧
      ∀ root ∈ table.find? block.workspaceId block.rootId, root.isTemplate = false).map
    Block.updateAt

/-- The cards that count when the blocks are visited in some order, the newest first. -/
def rankedCards (table : BlockTable) (order : List Block) : List Block :=
  (order.filter table.counts).mergeSort fun earlier later => later.updateAt ≤ earlier.updateAt

/-- The update time of the card in the place that a limit names, when the blocks are visited in
some order; zero without such a card or without a positive limit. -/
def rankedTime (table : BlockTable) (order : List Block) (limit : Int32) : Int64 :=
  if 0 < limit then
    (((table.rankedCards order)[limit.toInt.toNat - 1]?).map Block.updateAt).getD 0
  else 0

variable (table : BlockTable)

/-- A stored block counts exactly if its update time is taken in. -/
theorem counts_iff (block : Block) :
    table.counts block = true ↔ block.kind = .card ∧ block.deleteAt = 0 ∧
      ∀ root ∈ table.find? block.workspaceId block.rootId, root.isTemplate = false := by
  cases found : table.find? block.workspaceId block.rootId with
  | none => simp [counts, Block.isCard, found]
  | some root => simp [counts, Block.isCard, found, and_assoc]

/-- The live times are those of the cards that count. -/
theorem liveTimes_eq : table.liveTimes = ↑(table.countedCards.map Block.updateAt) := by
  rw [liveTimes, Multiset.filter_coe, Multiset.map_coe, countedCards_eq]
  refine congrArg (fun cards : List Block => (↑(cards.map Block.updateAt) : Multiset Int64)) ?_
  refine List.filter_congr fun block _ => ?_
  rw [Bool.eq_iff_iff, decide_eq_true_eq, counts_iff]

/-- The live times in descending order are the counted ones. -/
theorem coe_countedTimes : (table.countedTimes : Multiset Int64) = table.liveTimes := by
  rw [liveTimes_eq, Multiset.coe_eq_coe]
  exact table.countedTimes_perm

/-- There are as many live times as counted ones. -/
theorem card_liveTimes : table.liveTimes.card = table.countedTimes.length := by
  rw [← coe_countedTimes, Multiset.coe_card]

/-- As many live times pass a test as counted ones. -/
theorem countP_liveTimes (test : Int64 → Prop) [DecidablePred test] :
    table.liveTimes.countP test = table.countedTimes.countP fun time => test time := by
  rw [← coe_countedTimes, Multiset.coe_countP]

variable {table}

/-- In whatever order the blocks are visited, the ranked cards have the counted times. -/
theorem map_updateAt_rankedCards {order : List Block} (visits : order.Perm table.blocks) :
    (table.rankedCards order).map Block.updateAt = table.countedTimes := by
  have descending : Descending ((table.rankedCards order).map Block.updateAt) :=
    List.pairwise_map.mpr (pairwise_mergeSort_newest Block.updateAt _)
  have sorted := (List.mergeSort_perm (order.filter table.counts) fun earlier later =>
    later.updateAt ≤ earlier.updateAt).map Block.updateAt
  have visited := (visits.filter table.counts).map Block.updateAt
  rw [← countedCards_eq] at visited
  have sameTimes := (sorted.trans visited).trans table.countedTimes_perm.symm
  exact sameTimes.eq_of_pairwise (fun _ _ _ _ later earlier => Int64.le_antisymm earlier later)
    descending table.countedTimes_descending

/-- In whatever order the blocks are visited, the ranked time is the cutoff. -/
theorem rankedTime_eq_cutoffFor {order : List Block} (visits : order.Perm table.blocks)
    (limit : Int32) : table.rankedTime order limit = table.cutoffFor limit := by
  rw [rankedTime, cutoffFor, ← List.getElem?_map, map_updateAt_rankedCards visits]

end BlockTable

/-- The cutoff that a store computes for a limit, keeps and returns is the time of that rank
among the live times: zero without a positive limit or with fewer live times than the limit
says, and otherwise the one live time with fewer live times than the limit above it and as
many as the limit from it on.  The number of used cards is the number of live times, and
computing the cutoff changes nothing else but the record of it.  Both come out alike in
whatever order the blocks are visited. -/
theorem cutoff_is_ranked_time (store : MemoryStore) (limit : Int32) :
    let times := store.blocks.liveTimes
    ∃ cutoff used,
      outcome (Store.updateCutoff limit) store =
        (.ok cutoff,
          { store with cutoff, cutoffUpdates := store.cutoffUpdates ++ [limit] }) ∧
      outcome (Store.usedCards : Action MemoryStore Int64) store = (.ok used, store) ∧
      (limit ≤ 0 ∨ times.card < limit.toInt → cutoff = 0) ∧
      (0 < limit → limit.toInt ≤ times.card →
        cutoff ∈ times ∧ ∀ time,
          (times.countP (time < ·) < limit.toInt ∧ limit.toInt ≤ times.countP (time ≤ ·)) ↔
            time = cutoff) ∧
      used = .ofNat times.card ∧ (times.card ≤ Int64.maxValue.toInt → used.toInt = times.card) ∧
      ∀ order : List Block, order.Perm store.blocks.blocks →
        store.blocks.rankedTime order limit = cutoff ∧
        (store.blocks.rankedCards order).length = times.card := by
  intro times
  let table := store.blocks
  have cards : times.card = table.countedTimes.length := table.card_liveTimes
  have counted : table.countedCards.length = times.card := by
    rw [cards, table.length_countedTimes]
  refine ⟨table.cutoffFor limit, .ofNat times.card, rfl, ?_, ?_, ?_, rfl, ?_, ?_⟩
  · rw [← counted]
    rfl
  · rintro (nothing | room)
    · exact BlockTable.cutoffFor_of_not_positive nothing
    · exact BlockTable.cutoffFor_of_room (by omega)
  · intro positive enough
    have positiveInt := toInt_pos positive
    have inside : limit.toInt.toNat - 1 < table.countedTimes.length := by omega
    rw [BlockTable.cutoffFor_of_inside positive inside]
    refine ⟨?_, fun time => ?_⟩
    · rw [show times = ↑table.countedTimes from table.coe_countedTimes.symm]
      exact List.getElem_mem inside
    · rw [table.countP_liveTimes, table.countP_liveTimes,
        ← table.countedTimes_descending.eq_getElem_iff inside]
      omega
  · intro fits
    have largest : Int64.maxValue.toInt = 2 ^ 63 - 1 := rfl
    exact Int64.toInt_ofNat_of_lt (by omega)
  · intro order visits
    refine ⟨BlockTable.rankedTime_eq_cutoffFor visits limit, ?_⟩
    rw [cards, ← BlockTable.map_updateAt_rankedCards visits, List.length_map]

/-- A store with cards of two workspaces, two of them updated at one time.  A card is deleted,
one was replaced by a newer one, and only one of the two boards is a template. -/
def twoWorkspaces : MemoryStore :=
  .ofSeed { blocks :=
    [{ (Block.fresh "board" .board "board" "board").withField Block.templateField (.bool true) with
        workspaceId := "1" },
      { (Block.fresh "old" .card "board" "board").withUpdateAt 200 with workspaceId := "0" },
      { (Block.fresh "old" .card "board" "board").withUpdateAt 400 with workspaceId := "1" },
      { (Block.fresh "new" .card "board" "board").withUpdateAt 300 with workspaceId := "0" },
      { (Block.fresh "gone" .card "board" "board").withUpdateAt 500 with
        workspaceId := "0"
        deleteAt := 1 },
      { (Block.fresh "old" .card "board" "board").withUpdateAt 100 with workspaceId := "0" },
      { (Block.fresh "loose" .card "" "").withUpdateAt 100 with workspaceId := "1" }] }

/-- The store has three live times, of which the lower one comes twice. -/
theorem liveTimes_twoWorkspaces : twoWorkspaces.blocks.liveTimes = {300, 100, 100} := by
  rw [BlockTable.liveTimes_eq]
  rfl

/-- With two of the three cards in the active window the cutoff is the time of the other two,
also when the blocks are visited in reverse. -/
theorem cutoff_is_ranked_time_twoWorkspaces :
    (0 : Int32) < 2 ∧ Int32.toInt 2 ≤ twoWorkspaces.blocks.liveTimes.card ∧
      twoWorkspaces.blocks.liveTimes.card ≤ Int64.maxValue.toInt ∧
      twoWorkspaces.blocks.blocks.reverse.Perm twoWorkspaces.blocks.blocks ∧
      outcome (Store.updateCutoff 2) twoWorkspaces =
        (.ok 100, { twoWorkspaces with cutoff := 100, cutoffUpdates := [2] }) ∧
      twoWorkspaces.blocks.rankedTime twoWorkspaces.blocks.blocks.reverse 2 = 100 ∧
      ∃ used, outcome (Store.usedCards : Action MemoryStore Int64) twoWorkspaces =
        (.ok used, twoWorkspaces) ∧ used.toInt = 3 := by
  have enough : Int32.toInt 2 ≤ twoWorkspaces.blocks.liveTimes.card := by
    rw [liveTimes_twoWorkspaces]
    decide
  have few : twoWorkspaces.blocks.liveTimes.card ≤ Int64.maxValue.toInt := by
    rw [liveTimes_twoWorkspaces]
    decide
  obtain ⟨cutoff, used, updated, asked, -, ranked, -, number, visited⟩ :=
    cutoff_is_ranked_time twoWorkspaces 2
  have cutoff_eq : 100 = cutoff := ((ranked (by decide) enough).2 100).mp (by
    rw [liveTimes_twoWorkspaces]
    decide)
  obtain ⟨reversed, -⟩ := visited _ (List.reverse_perm _)
  subst cutoff_eq
  refine ⟨by decide, enough, few, List.reverse_perm _, updated, reversed, used, asked, ?_⟩
  rw [number few, liveTimes_twoWorkspaces]
  rfl

end CardLimits
