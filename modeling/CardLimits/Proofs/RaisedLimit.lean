import CardLimits.Proofs.Cutoff
import CardLimits.Proofs.LimitInForce
import CardLimits.Proofs.Serving
/-!
# Raising the card limit

With a higher card limit the cutoff is the time of an older card, so what is withheld with
the higher limit is withheld with the lower one as well (`raised_limit_withholds_no_more`).
The cutoffs themselves are no measure of that: one for few cards may lie below zero, and the
one for more cards than there are is zero.  Only a positive cutoff withholds anything, and a
positive cutoff for a limit is at most the cutoff for every lower limit.
-/

namespace CardLimits

variable {table : BlockTable} {container : Container} {blocks : List Block}

/-- A cutoff that is not older withholds whatever a positive cutoff withholds. -/
theorem withholds_of_le {cutoff recent : Int64} (ordered : 0 < cutoff → cutoff ≤ recent)
    {block : Block} (withheld : table.withholds container blocks cutoff block = true) :
    table.withholds container blocks recent block = true := by
  simp only [BlockTable.withholds, Bool.and_eq_true, decide_eq_true_eq] at withheld ⊢
  obtain ⟨⟨⟨isCard, positive⟩, old⟩, noTemplate⟩ := withheld
  have notOlder := ordered positive
  exact ⟨⟨⟨isCard, Int64.lt_of_lt_of_le positive notOlder⟩, Int64.le_trans old notOlder⟩,
    noTemplate⟩

/-- If a cutoff withholds whatever another one does, so it is for the cards that the blocks
of a list belong to. -/
theorem holdsWithheld_of_withholds {cutoff recent : Int64}
    (weaker : ∀ block, table.withholds container blocks cutoff block = true →
      table.withholds container blocks recent block = true)
    (holds : table.holdsWithheld container blocks cutoff = true) :
    table.holdsWithheld container blocks recent = true := by
  rw [BlockTable.holdsWithheld, List.any_eq_true] at holds ⊢
  obtain ⟨block, member, judged⟩ := holds
  obtain ⟨card, found, withheld⟩ := (Option.any_eq_true _ _).mp judged
  exact ⟨block, member, (Option.any_eq_true _ _).mpr ⟨card, found, weaker card withheld⟩⟩

/-- What is withheld by the cutoff for a limit is withheld by the cutoff for a lower one. -/
theorem withholds_of_raised {tight loose : Int32} (positive : 0 < tight) (raised : tight ≤ loose)
    {block : Block}
    (withheld : table.withholds container blocks (table.cutoffFor loose) block = true) :
    table.withholds container blocks (table.cutoffFor tight) block = true := by
  refine withholds_of_le (fun reached => ?_) withheld
  have notZero : table.cutoffFor loose ≠ 0 := fun zero => Int64.lt_irrefl (zero ▸ reached)
  exact BlockTable.cutoffFor_le_of_raised positive raised notZero

/-- If a cutoff withholds whatever another one does, a block that the other one leaves as its
limited view is served as its limited view. -/
theorem view_eq_limitedView_of_withholds {cutoff recent : Int64} {block : Block}
    (weaker : table.withholds container blocks cutoff block = true →
      table.withholds container blocks recent block = true)
    (replaced : table.view container blocks cutoff block = block.limitedView) :
    table.view container blocks recent block = block.limitedView := by
  rw [BlockTable.view] at replaced ⊢
  split at replaced
  · rename_i withheld
    rw [if_pos (weaker withheld)]
  · -- The block was not withheld, so it looks like its own limited view.
    split
    · rfl
    · exact replaced

/-! ## Main statement -/

/-- Raising the card limit limits no card that was not limited before.  Take a server in the
cloud that gets the cutoff for a limit, and the same server when it gets the cutoff for a
higher one.  A block of a list that is withheld with the higher limit is withheld with the
lower limit, so every place of the list that shows a limited view with the higher limit
shows it with the lower one; and if the check says yes with the higher limit, it says yes
with the lower one. -/
theorem raised_limit_withholds_no_more (server : Server MemoryStore)
    (noFailure : server.store.fetchFailure = none)
    (cloud : server.store.license.any License.isCloud = true) (tight loose : Int32)
    (positive : 0 < tight) (raised : tight ≤ loose) {lower higher : Server MemoryStore}
    (lowered : server.Adopts tight lower) (heightened : server.Adopts loose higher)
    (container : Container) (blocks : List Block) :
    (∃ servedLower servedHigher,
      (outcome (Server.applyLimits container blocks) lower).1 = .ok servedLower ∧
      (outcome (Server.applyLimits container blocks) higher).1 = .ok servedHigher ∧
      servedLower = blocks.map (fun block =>
        if server.store.blocks.withholds container blocks lower.store.cutoff block then
          block.limitedView
        else block) ∧
      servedHigher = blocks.map (fun block =>
        if server.store.blocks.withholds container blocks higher.store.cutoff block then
          block.limitedView
        else block) ∧
      (∀ block, server.store.blocks.withholds container blocks higher.store.cutoff block = true →
        server.store.blocks.withholds container blocks lower.store.cutoff block = true) ∧
      ∀ (place : Nat) (block : Block), blocks[place]? = some block →
        servedHigher[place]? = some block.limitedView →
        servedLower[place]? = some block.limitedView) ∧
    ∀ arrangeLower arrangeHigher : List Block → List Block,
      (∀ cards, (arrangeLower cards).Perm cards) → (∀ cards, (arrangeHigher cards).Perm cards) →
      ∃ holdsLower holdsHigher,
        (outcome (Server.holdsLimitedArranged arrangeLower container blocks) lower).1 =
          .ok holdsLower ∧
        (outcome (Server.holdsLimitedArranged arrangeHigher container blocks) higher).1 =
          .ok holdsHigher ∧
        (holdsHigher = true → holdsLower = true) := by
  have loosePositive : 0 < loose := Int32.lt_of_lt_of_le positive raised
  have tightInForce := lowered.inForce cloud (Int32.ne_of_lt positive).symm
  have looseInForce := heightened.inForce cloud (Int32.ne_of_lt loosePositive).symm
  have lowerAnswers := tightInForce.fetchFailure.trans noFailure
  have higherAnswers := looseInForce.fetchFailure.trans noFailure
  have weaker (block : Block)
      (withheld : server.store.blocks.withholds container blocks higher.store.cutoff block =
        true) :
      server.store.blocks.withholds container blocks lower.store.cutoff block = true := by
    rw [looseInForce.cutoff] at withheld
    rw [tightInForce.cutoff]
    exact withholds_of_raised positive raised withheld
  have servesLower := Server.answer_applyLimits lowerAnswers tightInForce.applies container blocks
  have servesHigher :=
    Server.answer_applyLimits higherAnswers looseInForce.applies container blocks
  rw [tightInForce.blocks] at servesLower
  rw [looseInForce.blocks] at servesHigher
  refine ⟨⟨_, _, servesLower, servesHigher, rfl, rfl, weaker, ?_⟩, ?_⟩
  · intro place block here replaced
    rw [List.getElem?_map, here, Option.map_some, Option.some.injEq] at replaced ⊢
    exact view_eq_limitedView_of_withholds (weaker block) replaced
  · intro arrangeLower arrangeHigher permutesLower permutesHigher
    refine ⟨_, _,
      Server.answer_holdsLimitedArranged permutesLower lowerAnswers container blocks,
      Server.answer_holdsLimitedArranged permutesHigher higherAnswers container blocks, ?_⟩
    rw [tightInForce.blocks, looseInForce.blocks]
    exact holdsWithheld_of_withholds weaker

/-- With room for two, which is pushed, the sample server limits its older card; so it does
with room for one, for which it refreshes the cutoff. -/
theorem raised_limit_withholds_no_more_sampleServer :
    ∃ lower higher card,
      sampleServer.store.fetchFailure = none ∧
      sampleServer.store.license.any License.isCloud = true ∧ (0 : Int32) < 1 ∧
      (1 : Int32) ≤ 2 ∧ sampleServer.Adopts 1 lower ∧ sampleServer.Adopts 2 higher ∧
      sampleServer.store.blocks.find? "0" "stored" = some card ∧
      (outcome (Server.applyLimits ⟨"0"⟩ [card]) higher).1 = .ok [card.limitedView] ∧
      (outcome (Server.applyLimits ⟨"0"⟩ [card]) lower).1 = .ok [card.limitedView] := by
  obtain ⟨card, stored⟩ : ∃ card, sampleServer.store.blocks.find? "0" "stored" = some card :=
    ⟨_, rfl⟩
  have pushed : sampleServer.Adopts 2 (sampleServer.pushed (some (.withCards 2))) :=
    .push rfl (by decide) (Server.outcome_setLimits _ _)
  have refreshed : sampleServer.Adopts 1 sampleServer.refreshed :=
    .refresh ((outcome_bind_ok rfl).trans (Server.outcome_refreshCutoff _))
  obtain ⟨⟨servedLower, servedHigher, serveLower, serveHigher, lowerShape, higherShape, -,
      same⟩, -⟩ :=
    raised_limit_withholds_no_more sampleServer rfl rfl 1 2 (by decide) (by decide) refreshed pushed
      ⟨"0"⟩ [card]
  have cutoff : (sampleServer.pushed (some (.withCards 2))).store.cutoff = 100 :=
    cutoffFor_two_sampleServer
  have higherServed : servedHigher = [card.limitedView] := by
    rw [higherShape, cutoff]
    cases stored
    rfl
  have lowerServed : servedLower = [card.limitedView] := by
    have first := same 0 card rfl (by rw [higherServed]; rfl)
    rw [lowerShape] at first ⊢
    exact congrArg (fun served => [served]) (Option.some.inj first)
  exact ⟨_, _, card, rfl, rfl, by decide, by decide, refreshed, pushed, stored,
    higherServed ▸ serveHigher, lowerServed ▸ serveLower⟩

end CardLimits
