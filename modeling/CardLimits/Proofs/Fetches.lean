import CardLimits.Proofs.Workspaces
/-!
# What is fetched, and in which order

The ids that a server asks a store for are settled by the blocks at hand alone: they are the
wanted ones among the ids that the blocks name, each once, in the order in which they come first
(`FirstOccurrences`, `firstOccurrences_missingIds`).  For the templates these are the roots that
are no boards at hand, and they are asked for at once or not at all
(`templates_come_from_one_fetch`).
-/

namespace CardLimits

/-! ## First occurrences -/

/-- Whether some ids are the wanted ones of a list, each once and in the order in which they
come first in it. -/
structure FirstOccurrences (ids : List String) (wanted : String → Prop) (chosen : List String) :
    Prop where
  mem_iff : ∀ id, id ∈ chosen ↔ id ∈ ids ∧ wanted id
  inOrder : chosen.Pairwise fun earlier later => ids.idxOf earlier < ids.idxOf later

namespace FirstOccurrences

variable {ids chosen others : List String} {wanted : String → Prop}

/-- No id is chosen twice. -/
theorem nodup (first : FirstOccurrences ids wanted chosen) : chosen.Nodup := by
  refine first.inOrder.imp ?_
  rintro earlier later before rfl
  exact Nat.lt_irrefl _ before

/-- There is one such list only. -/
theorem unique (first : FirstOccurrences ids wanted chosen)
    (second : FirstOccurrences ids wanted others) : chosen = others := by
  have sameIds : chosen.Perm others :=
    (List.perm_ext_iff_of_nodup first.nodup second.nodup).mpr fun id =>
      (first.mem_iff id).trans (second.mem_iff id).symm
  exact sameIds.eq_of_pairwise
    (fun _ _ _ _ before after => absurd after (Nat.lt_asymm before)) first.inOrder second.inOrder

end FirstOccurrences

/-- Of two items that pass a test, the one that comes first among those that pass comes first in
the whole list. -/
theorem idxOf_lt_of_filter {items : List String} {passes : String → Bool}
    {earlier later : String} (passed : passes earlier = true) (passedLater : passes later = true)
    (before : (items.filter passes).idxOf earlier < (items.filter passes).idxOf later) :
    items.idxOf earlier < items.idxOf later := by
  induction items with
  | nil => exact absurd before (Nat.lt_irrefl _)
  | cons item rest inductionHypothesis =>
    by_cases kept : passes item = true
    · rw [List.filter_cons_of_pos kept] at before
      rcases eq_or_ne item later with rfl | notLater
      · rw [List.idxOf_cons_self] at before
        exact absurd before (Nat.not_lt_zero _)
      · rw [List.idxOf_cons_ne _ notLater] at before ⊢
        rcases eq_or_ne item earlier with rfl | notEarlier
        · rw [List.idxOf_cons_self]
          exact Nat.succ_pos _
        · rw [List.idxOf_cons_ne _ notEarlier] at before ⊢
          exact Nat.succ_lt_succ (inductionHypothesis (Nat.lt_of_succ_lt_succ before))
    · have notEarlier : item ≠ earlier := fun equal => kept (equal ▸ passed)
      have notLater : item ≠ later := fun equal => kept (equal ▸ passedLater)
      rw [List.filter_cons_of_neg kept] at before
      rw [List.idxOf_cons_ne _ notEarlier, List.idxOf_cons_ne _ notLater]
      exact Nat.succ_lt_succ (inductionHypothesis before)

/-- Taking out what came before keeps the order of the first occurrences. -/
theorem pairwise_idxOf_eraseDups (items : List String) :
    items.eraseDups.Pairwise fun earlier later => items.idxOf earlier < items.idxOf later := by
  match items with
  | [] => exact List.Pairwise.nil
  | first :: rest =>
    rw [List.eraseDups_cons, List.pairwise_cons]
    -- Whatever comes behind the first item is another one, so the first item is passed over.
    have other {item : String}
        (member : item ∈ (rest.filter fun item => !item == first).eraseDups) :
        (!item == first) = true :=
      (List.mem_filter.mp (List.mem_eraseDups.mp member)).2
    have place {item : String} (different : (!item == first) = true) :
        (first :: rest).idxOf item = rest.idxOf item + 1 :=
      List.idxOf_cons_ne rest fun equal => by simp [equal] at different
    constructor
    · intro later member
      rw [place (other member), List.idxOf_cons_self]
      exact Nat.succ_pos _
    · have restInOrder := pairwise_idxOf_eraseDups (rest.filter fun item => !item == first)
      refine restInOrder.imp_of_mem fun {earlier later} member memberLater before => ?_
      rw [place (other member), place (other memberLater)]
      exact Nat.succ_lt_succ (idxOf_lt_of_filter (other member) (other memberLater) before)
termination_by items.length
decreasing_by exact Nat.lt_succ_of_le (List.length_filter_le _ rest)

/-- The ids that are missing are those that are not empty and not known. -/
theorem firstOccurrences_missingIds (isKnown : String → Bool) (ids : List String) :
    FirstOccurrences ids (fun id => id ≠ "" ∧ isKnown id = false) (missingIds isKnown ids) where
  mem_iff _ := mem_missingIds
  inOrder := by
    refine (pairwise_idxOf_eraseDups _).imp_of_mem fun {earlier later} member memberLater => ?_
    exact idxOf_lt_of_filter (List.mem_filter.mp (List.mem_eraseDups.mp member)).2
      (List.mem_filter.mp (List.mem_eraseDups.mp memberLater)).2

/-- Which ids are wanted matters only for those that are named. -/
theorem FirstOccurrences.congr {ids chosen : List String} {wanted needed : String → Prop}
    (first : FirstOccurrences ids wanted chosen)
    (same : ∀ id ∈ ids, wanted id ↔ needed id) : FirstOccurrences ids needed chosen where
  mem_iff id := (first.mem_iff id).trans (and_congr_right (same id))
  inOrder := first.inOrder

/-- A board of the list is the last one with its id or has the id of that one. -/
theorem mem_boardIds {blocks : List Block} {id : String} :
    id ∈ boardIds blocks ↔ (lastOfKind? .board blocks id).isSome :=
  mem_idsOfKind .board

/-- The roots that are missing are those that are not empty and not the id of a board. -/
theorem firstOccurrences_missingRoots (blocks : List Block) :
    FirstOccurrences ((blocks.filter fun block => !block.isBoard).map Block.rootId)
      (fun id => id ≠ "" ∧ id ∉ boardIds blocks) (missingRoots blocks) := by
  refine (firstOccurrences_missingIds _ _).congr fun id _ => and_congr_right fun _ => ?_
  simp [Table.contains, get?_ownTemplates, mem_boardIds]

/-- Some root is missing exactly if some block that is no board names a root that is not empty and
not the id of a board. -/
theorem missingRoots_ne_nil_iff {blocks : List Block} :
    missingRoots blocks ≠ [] ↔
      ∃ block ∈ blocks, block.isBoard = false ∧ block.rootId ≠ "" ∧
        block.rootId ∉ boardIds blocks := by
  have mem_iff := (firstOccurrences_missingRoots blocks).mem_iff
  constructor
  · intro some
    obtain ⟨id, missing⟩ := List.exists_mem_of_ne_nil _ some
    obtain ⟨named, wanted⟩ := (mem_iff id).mp missing
    obtain ⟨block, filtered, rfl⟩ := List.mem_map.mp named
    obtain ⟨member, notBoard⟩ := List.mem_filter.mp filtered
    exact ⟨block, member, by simpa using notBoard, wanted⟩
  · rintro ⟨block, member, notBoard, wanted⟩
    refine List.ne_nil_of_mem ((mem_iff block.rootId).mpr ⟨List.mem_map_of_mem ?_, wanted⟩)
    exact List.mem_filter.mpr ⟨member, by simp [notBoard]⟩

/-! ## The record of fetches -/

/-- Asking a store for blocks changes nothing but the record of its fetches. -/
theorem Server.recordFetch_eq (ids : List String) (server : Server MemoryStore) :
    server.recordFetch ids =
      { server with
        store := { server.store with fetches := server.store.fetches ++ fetchesOf ids } } := by
  cases ids with
  | nil => simp [Server.recordFetch, MemoryStore.recordFetch, fetchesOf]
  | cons id rest => rfl

/-- An answer that is only worked on fails exactly if it failed before. -/
theorem map_eq_error_iff {α β : Type} {answer : Except AppError α} {use : α → β}
    {error : AppError} : answer.map use = .error error ↔ answer = .error error := by
  cases answer <;> simp [Except.map]

/-- The templates have the ids of the boards at hand, and of the stored blocks that were asked
for. -/
theorem contains_templatesFrom {table : BlockTable} {workspaceId : String}
    {blocks : List Block} {id : String} :
    (templatesFrom blocks
        ((missingRoots blocks).filterMap (table.find? workspaceId))).contains id ↔
      id ∈ boardIds blocks ∨ id ∈ missingRoots blocks ∧ (table.find? workspaceId id).isSome := by
  rw [Table.contains, get?_templatesFrom, Option.isSome_map, Option.isSome_or, Bool.or_eq_true,
    mem_boardIds]
  split <;> simp_all

/-! ## Main statement -/

/-- Templates are looked up with one exact fetch.  It asks for the roots that the blocks other
than boards name, and that are not empty and not the id of a board at hand, each once and in the
order in which they come first; if there are none nothing is fetched.  It fails exactly if there
are some and fetches fail, with the error of the store, and nothing but the record of fetches
changes.  The templates then have exactly the ids of the boards at hand and of the stored blocks
that were asked for; under the id of a board at hand they hold what the last such board says, and
under an id that was asked for what the stored block says.  Serving blocks where a limit applies
makes the same fetch and fails with the same errors. -/
theorem templates_come_from_one_fetch (server : Server MemoryStore) (container : Container)
    (blocks : List Block) :
    let stored := server.store.blocks.find? container.workspaceId
    ∃ asked answer,
      FirstOccurrences ((blocks.filter fun block => !block.isBoard).map Block.rootId)
        (fun id => id ≠ "" ∧ id ∉ boardIds blocks) asked ∧
      asked.Nodup ∧
      outcome (Server.templates container blocks) server =
        (answer,
          { server with
            store := { server.store with fetches := server.store.fetches ++ fetchesOf asked } }) ∧
      (∀ error, answer = .error error ↔
        asked ≠ [] ∧ ∃ text, server.store.fetchFailure = some text ∧ error = .internal text) ∧
      (∀ templates, answer = .ok templates →
        (∀ id, templates.contains id = true ↔
          id ∈ boardIds blocks ∨ id ∈ asked ∧ (stored id).isSome) ∧
        (∀ id board, lastOfKind? .board blocks id = some board →
          templates.get? id = some board.isTemplate) ∧
        ∀ id ∈ asked, templates.get? id = (stored id).map Block.isTemplate) ∧
      (server.limitApplies = true →
        (outcome (Server.applyLimits container blocks) server).2.store.fetches =
          server.store.fetches ++ fetchesOf asked ∧
        ∀ error, (outcome (Server.applyLimits container blocks) server).1 = .error error ↔
          answer = .error error) := by
  intro stored
  let asked := missingRoots blocks
  refine ⟨asked, (server.store.lookUp container asked).map (templatesFrom blocks),
    firstOccurrences_missingRoots blocks, nodup_missingRoots blocks, ?_, ?_, ?_, ?_⟩
  · rw [Server.outcome_templates, Server.recordFetch_eq]
  · intro error
    rw [map_eq_error_iff, MemoryStore.lookUp_eq_error_iff]
  · intro templates found
    cases answered : server.store.lookUp container asked with
    | error error =>
      rw [answered] at found
      cases found
    | ok fetched =>
      obtain ⟨-, rfl⟩ := MemoryStore.lookUp_eq_ok_iff.mp answered
      rw [answered] at found
      cases found
      refine ⟨fun id => contains_templatesFrom, fun id board last => ?_, fun id member => ?_⟩
      · rw [get?_templatesFrom, last]
        rfl
      · rw [get?_templatesFrom, if_pos member, (mem_missingRoots.mp member).2.2]
        rfl
  · intro applies
    rw [Server.outcome_applyLimits, if_pos applies]
    refine ⟨?_, fun error => ?_⟩
    · rw [Server.recordFetch_store, MemoryStore.recordFetch_fetches,
        Server.afterLimitCheck_fetches]
    · rw [map_eq_error_iff, map_eq_error_iff]

/-- A list with a board, cards on stored boards, on that board and on none, and text on a board
that is not there.  Some roots come twice. -/
def mixedRoots : List Block :=
  [oldCard "first" "template", oldCard "loose" "", Block.fresh "own" .board "own" "stray",
    oldCard "second" "own", Block.fresh "text" .text "first" "missing",
    oldCard "third" "template", oldCard "fourth" "board"]

/-- Over the sample server three roots are asked for at once, of which two are stored.  The
template and the board at hand keep what they say, and the list is served after the same fetch. -/
theorem templates_come_from_one_fetch_mixedRoots :
    sampleServer.limitApplies = true ∧
      (∃ templates, outcome (Server.templates ⟨"0"⟩ mixedRoots) sampleServer =
          (.ok templates,
            { sampleServer with
              store :=
                { sampleServer.store with fetches := [["template", "missing", "board"]] } }) ∧
        templates.get? "template" = some true ∧ templates.get? "own" = some false ∧
        templates.contains "missing" = false ∧ templates.contains "stray" = false) ∧
      (outcome (Server.applyLimits ⟨"0"⟩ mixedRoots) sampleServer).2.store.fetches =
        [["template", "missing", "board"]] := by
  obtain ⟨asked, answer, first, -, ran, fails, holds, servedAlike⟩ :=
    templates_come_from_one_fetch sampleServer ⟨"0"⟩ mixedRoots
  have roots : missingRoots mixedRoots = ["template", "missing", "board"] := rfl
  have asked_eq : asked = ["template", "missing", "board"] :=
    roots ▸ first.unique (firstOccurrences_missingRoots mixedRoots)
  subst asked_eq
  cases answer with
  | error error =>
    obtain ⟨-, text, failure, -⟩ := (fails error).mp rfl
    cases failure
  | ok templates =>
    obtain ⟨keys, atHand, fetched⟩ := holds templates rfl
    refine ⟨by decide, ⟨templates, ran, ?_, ?_, ?_, ?_⟩, (servedAlike (by decide)).1⟩
    · exact (fetched "template" (by decide)).trans rfl
    · exact (atHand "own" (Block.fresh "own" .board "own" "stray") rfl).trans rfl
    · exact Bool.eq_false_iff.mpr fun present => absurd ((keys "missing").mp present) (by decide)
    · exact Bool.eq_false_iff.mpr fun present => absurd ((keys "stray").mp present) (by decide)

end CardLimits
