import CardLimits.Proofs.Agreement
import CardLimits.Proofs.Cutoff
import CardLimits.Proofs.LimitInForce
/-!
# A server at its card limit

The cutoff for a limit is the time of the card in the place that the limit names, and a card
as old as the cutoff is withheld.  As long as there is room for one more card there is no
cutoff and nothing is withheld.  With exactly as many cards as the limit says, the card in
that place is the oldest one: it is withheld although the limit is not exceeded, unless its
update time is not positive (`withheld_within_limit`).  So a limit leaves room for one card
less than it says (`lone_card_withheld_at_limit`).
-/

namespace CardLimits

/-- Whether a list consists of cards of a workspace that are stored and not deleted. -/
def BlockTable.LiveCards (table : BlockTable) (container : Container) (cards : List Block) :
    Prop :=
  ∀ card ∈ cards, card ∈ table.blocks ∧ card.workspaceId = container.workspaceId ∧
    card.isCard = true ∧ card.deleteAt = 0

namespace BlockTable.LiveCards

variable {table : BlockTable} {container : Container} {cards : List Block}

/-- Stored cards can be told apart by their ids. -/
theorem cardsDistinct (live : table.LiveCards container cards) : CardsDistinct cards := by
  intro card member other otherMember _ _ sameId
  obtain ⟨stored, here, -⟩ := live card member
  obtain ⟨otherStored, otherHere, -⟩ := live other otherMember
  exact table.eq_of_samePlace stored otherStored ⟨here.trans otherHere.symm, sameId⟩

/-- A live card is withheld exactly if it is as old as the cutoff, and counts or names no
root.  The root of a card that does not count is a template, but an empty root is never
looked up. -/
theorem withholds_iff (live : table.LiveCards container cards) {cutoff : Int64} {card : Block}
    (member : card ∈ cards) :
    table.withholds container cards cutoff card = true ↔
      0 < cutoff ∧ card.updateAt ≤ cutoff ∧ (table.counts card = true ∨ card.rootId = "") := by
  obtain ⟨-, here, isCard, notDeleted⟩ := live card member
  have noBoard : ∀ other ∈ cards, other.kind ≠ .board := fun other otherMember =>
    Block.kind_ne_board_of_isCard (live other otherMember).2.2.1
  have judged : table.isTemplateRoot container cards card.rootId = false ↔
      table.counts card = true ∨ card.rootId = "" := by
    rw [BlockTable.isTemplateRoot, lastOfKind?_of_ne noBoard, BlockTable.counts, here, isCard,
      notDeleted]
    by_cases named : card.rootId = ""
    · simp [named]
    · simp [named]
  rw [BlockTable.withholds, isCard, ← judged]
  simp [and_assoc]

/-- The check on live cards says whether one of them is withheld. -/
theorem holdsWithheld_eq (live : table.LiveCards container cards) (cutoff : Int64) :
    table.holdsWithheld container cards cutoff =
      table.withholdsSome container cards cutoff := by
  have noContent : ∀ card ∈ cards,
      card.kind = .board ∨ card.kind = .view ∨ card.kind = .card := by
    intro card member
    exact .inr (.inr (of_decide_eq_true (live card member).2.2.1))
  have noParents : List.Perm [] (table.storedParents container cards) := by
    rw [storedParents_of_no_content noContent]
  rw [holdsWithheld_eq_withholdsSome live.cardsDistinct noParents, List.append_nil]

end BlockTable.LiveCards

/-- A card that counts is a live card of its workspace. -/
theorem liveCards_of_counted {table : BlockTable} {card : Block}
    (counted : card ∈ table.countedCards) : table.LiveCards ⟨card.workspaceId⟩ [card] := by
  intro other member
  rw [List.mem_singleton.mp member]
  obtain ⟨stored, counts⟩ := BlockTable.mem_countedCards_iff.mp counted
  simp only [BlockTable.counts, Bool.and_eq_true, decide_eq_true_eq] at counts
  exact ⟨stored, rfl, counts.1.1, counts.1.2⟩

/-! ## Main statement -/

/-- What is withheld after a push of a new card limit that is not exceeded.  If fewer cards
count than it says, nothing is, and no list is found to hold anything limited.  If exactly as
many count, the oldest of them sets the cutoff: of the live cards of a workspace those as old
are withheld that count, or that name no root, and the check finds exactly these.  So the
oldest card is withheld although the limit is not exceeded, if its update time is positive. -/
theorem withheld_within_limit (server : Server MemoryStore)
    (noFailure : server.store.fetchFailure = none)
    (cloud : server.store.license.any License.isCloud = true) (limit : Int32)
    (positive : 1 ≤ limit) (changed : limit ≠ server.cardLimit)
    (arrange : List Block → List Block) (permutes : ∀ cards, (arrange cards).Perm cards) :
    ∃ pushed, outcome (Server.setLimits (some (.withCards limit))) server = (.ok (), pushed) ∧
      (server.store.blocks.countedCards.length < limit.toInt.toNat →
        ∀ container blocks,
          (outcome (Server.applyLimits container blocks) pushed).1 = .ok blocks ∧
          (outcome (Server.holdsLimitedArranged arrange container blocks) pushed).1 =
            .ok false) ∧
      (server.store.blocks.countedCards.length = limit.toInt.toNat →
        ∃ oldest ∈ server.store.blocks.countedCards,
          (∀ card ∈ server.store.blocks.countedCards, oldest.updateAt ≤ card.updateAt) ∧
          (∀ container cards, server.store.blocks.LiveCards container cards →
            (outcome (Server.applyLimits container cards) pushed).1 =
              .ok (cards.map fun card =>
                if 0 < oldest.updateAt ∧ card.updateAt ≤ oldest.updateAt ∧
                    (server.store.blocks.counts card = true ∨ card.rootId = "") then
                  card.limitedView
                else card) ∧
            ∃ holds,
              (outcome (Server.holdsLimitedArranged arrange container cards) pushed).1 =
                .ok holds ∧
              (holds = true ↔ ∃ card ∈ cards, 0 < oldest.updateAt ∧
                card.updateAt ≤ oldest.updateAt ∧
                (server.store.blocks.counts card = true ∨ card.rootId = ""))) ∧
          (0 < oldest.updateAt →
            (outcome (Server.applyLimits ⟨oldest.workspaceId⟩ [oldest]) pushed).1 =
              .ok [oldest.limitedView] ∧
            (outcome (Server.holdsLimitedArranged arrange ⟨oldest.workspaceId⟩ [oldest])
              pushed).1 = .ok true)) := by
  have aboveZero : 0 < limit := Int32.lt_of_lt_of_le (by decide) positive
  let pushed := server.pushed (some (.withCards limit))
  have inForce : Server.InForce limit server pushed :=
    Server.inForce_pushed cloud (Int32.ne_of_lt aboveZero).symm rfl changed
  have answers : pushed.store.fetchFailure = none := inForce.fetchFailure.trans noFailure
  have serves := Server.answer_applyLimits answers inForce.applies
  have checks := Server.answer_holdsLimitedArranged permutes answers
  simp only [inForce.blocks, inForce.cutoff] at serves checks
  refine ⟨pushed, Server.outcome_setLimits _ server, ?_, ?_⟩
  · intro room container blocks
    rw [serves, checks, BlockTable.cutoffFor_of_room room, holdsWithheld_zero,
      view_of_not_positive (Int64.le_refl 0), List.map_id]
    exact ⟨rfl, rfl⟩
  · intro full
    obtain ⟨oldest, counted, cutoff, isOldest⟩ := BlockTable.cutoffFor_of_full aboveZero full
    rw [cutoff] at serves checks
    refine ⟨oldest, counted, isOldest, ?_, ?_⟩
    · intro container cards live
      refine ⟨?_, _, checks container cards, ?_⟩
      · rw [serves]
        refine congrArg Except.ok (List.map_congr_left fun card member => ?_)
        exact if_congr (live.withholds_iff member) rfl rfl
      · rw [live.holdsWithheld_eq, BlockTable.withholdsSome, List.any_eq_true]
        exact exists_congr fun card => and_congr_right live.withholds_iff
    · intro reached
      have live := liveCards_of_counted counted
      have withheld := (live.withholds_iff (List.mem_singleton_self oldest)).mpr
        ⟨reached, Int64.le_refl _, .inl (BlockTable.mem_countedCards_iff.mp counted).2⟩
      rw [serves, checks, live.holdsWithheld_eq]
      simp [BlockTable.withholdsSome, BlockTable.view, withheld]

/-- The sample server has two cards that count, and with room for two it withholds the older
one. -/
theorem withheld_within_limit_sampleServer :
    sampleServer.store.fetchFailure = none ∧
      sampleServer.store.license.any License.isCloud = true ∧ (1 : Int32) ≤ 2 ∧
      (2 : Int32) ≠ sampleServer.cardLimit ∧ (∀ cards : List Block, cards.reverse.Perm cards) ∧
      sampleServer.store.blocks.countedCards.length = (2 : Int32).toInt.toNat ∧
      ∃ pushed oldest,
        outcome (Server.setLimits (some (.withCards 2))) sampleServer = (.ok (), pushed) ∧
        oldest.id = "stored" ∧ oldest.workspaceId = "0" ∧
        (outcome (Server.applyLimits ⟨"0"⟩ [oldest]) pushed).1 = .ok [oldest.limitedView] ∧
        (outcome (Server.holdsLimitedArranged List.reverse ⟨"0"⟩ [oldest]) pushed).1 =
          .ok true := by
  obtain ⟨stored, newer, cards, storedId, here, storedTime, newerTime⟩ : ∃ stored newer,
      sampleServer.store.blocks.countedCards = [newer, stored] ∧ stored.id = "stored" ∧
        stored.workspaceId = "0" ∧ stored.updateAt = 100 ∧ newer.updateAt = 300 :=
    ⟨_, _, rfl, rfl, rfl, rfl, rfl⟩
  have full : sampleServer.store.blocks.countedCards.length = (2 : Int32).toInt.toNat := by
    rw [cards]
    rfl
  obtain ⟨pushed, push, -, atLimit⟩ := withheld_within_limit sampleServer rfl rfl 2 (by decide)
    (by decide) List.reverse List.reverse_perm
  obtain ⟨oldest, counted, isOldest, -, lost⟩ := atLimit full
  rw [cards] at counted isOldest
  have notNewer : oldest.updateAt ≤ 100 := storedTime ▸ isOldest stored (by simp)
  have isStored : oldest = stored := by
    simp only [List.mem_cons, List.not_mem_nil, or_false] at counted
    rcases counted with younger | older
    · rw [younger, newerTime] at notNewer
      exact absurd notNewer (by decide)
    · exact older
  subst isStored
  obtain ⟨served, found⟩ := lost (by rw [storedTime]; decide)
  rw [here] at served found
  exact ⟨rfl, rfl, by decide, by decide, List.reverse_perm, full, pushed, oldest, push, storedId,
    here, served, found⟩

/-- A card with a positive update time. -/
def loneCard : Block :=
  { (Block.fresh "card" .card "board" "board").withUpdateAt 100 with workspaceId := "0" }

/-- A server in the cloud with one card and no limit. -/
def loneCardServer : Server MemoryStore where
  store := { license := some .cloud, blocks := BlockTable.empty.put loneCard }

/-- With a limit of one card, a single card that is live and stored is withheld, and the check
on it says yes. -/
theorem lone_card_withheld_at_limit :
    loneCardServer.store.fetchFailure = none ∧
      loneCardServer.store.license.any License.isCloud = true ∧ loneCardServer.cardLimit = 0 ∧
      loneCardServer.store.blocks.countedCards.length = 1 ∧
      loneCardServer.store.blocks.LiveCards ⟨"0"⟩ [loneCard] ∧
      loneCard.limitedView ≠ loneCard ∧
      ∃ pushed,
        outcome (Server.setLimits (some (.withCards 1))) loneCardServer = (.ok (), pushed) ∧
        (outcome (Server.applyLimits ⟨"0"⟩ [loneCard]) pushed).1 = .ok [loneCard.limitedView] ∧
        (outcome (Server.holdsLimited ⟨"0"⟩ [loneCard]) pushed).1 = .ok true := by
  have counted : loneCardServer.store.blocks.countedCards = [loneCard] := rfl
  have live : loneCardServer.store.blocks.LiveCards ⟨"0"⟩ [loneCard] :=
    liveCards_of_counted (counted ▸ List.mem_singleton_self loneCard)
  have marked : loneCard.limitedView ≠ loneCard := fun same =>
    absurd (congrArg Block.limited same) (by decide)
  have cutoff : loneCardServer.store.blocks.cutoffFor 1 = 100 := by
    simp [BlockTable.cutoffFor, BlockTable.countedTimes, counted, loneCard, Block.withUpdateAt]
  let pushed := loneCardServer.pushed (some (.withCards 1))
  have inForce : Server.InForce 1 loneCardServer pushed :=
    Server.inForce_pushed rfl (by decide) rfl (by decide)
  have serves := Server.answer_applyLimits inForce.fetchFailure inForce.applies ⟨"0"⟩ [loneCard]
  have checks := Server.answer_holdsLimitedArranged (fun cards => .refl cards)
    inForce.fetchFailure ⟨"0"⟩ [loneCard]
  rw [inForce.blocks, inForce.cutoff, cutoff] at serves checks
  exact ⟨rfl, rfl, rfl, rfl, live, marked, pushed, Server.outcome_setLimits _ _, serves, checks⟩

end CardLimits
