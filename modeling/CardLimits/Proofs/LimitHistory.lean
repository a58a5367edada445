import CardLimits.Proofs.Cutoff
import CardLimits.Proofs.Limits
import CardLimits.Proofs.Reading
import CardLimits.Proofs.Serving
/-!
# The history of a card limit

In an ordinary run limits are pushed, the cutoff is refreshed, blocks are inserted, the
license changes, and everything is read, in any order and any number of times.  What one
operation does to the limits and the cutoff is said once (`ordinaryStep`), and what a run
does follows by induction: the limits are those of the last push, the cutoff is computed
exactly when the card limit changes or a refresh finds that a limit applies, and it stays
what it was computed to be (`limits_and_cutoff_of_run`).  So without a card limit there is
no cutoff either, unless there was one from the start.
-/

namespace CardLimits

namespace Operation

/-- Whether an operation is a push, a refresh, an insertion of blocks, a change of the
license, or a reading. -/
def isOrdinary : Operation → Bool
  | request (.setLimits _) | request .refreshCutoff | insertBlocks .. | setLicense _ => true
  | request asked => asked.isReading
  | setCutoff _ | insertTeam .. | failFetches _ | failSending _ => false

/-- The limits that an operation pushes. -/
def pushed? : Operation → Option ProductLimits
  | request (.setLimits limits) => some (limits.getD {})
  | _ => none

/-- The card limit after an operation, from the one before it.  A push says how many cards
boards may have, and says zero if it has no limits for boards or none for their cards. -/
def cardLimitAfter (limit : Int32) (operation : Operation) : Int32 :=
  (operation.pushed?.map fun limits => (limits.boards.bind BoardsLimits.cards).getD 0).getD limit

/-- The license after an operation, from the one before it. -/
def licenseAfter (license : Option License) : Operation → Option License
  | setLicense other => other
  | _ => license

/-- The limit for which an operation has the cutoff computed, if it does, from the card
limit and the license before it.  A push does so for its own limit if that is another one,
and a refresh for the current limit if it is not zero and the license is one for the cloud. -/
def recomputes? (limit : Int32) (license : Option License) (operation : Operation) :
    Option Int32 :=
  match operation with
  | request (.setLimits _) =>
    if limit = operation.cardLimitAfter limit then none else some (operation.cardLimitAfter limit)
  | request .refreshCutoff =>
    if limit ≠ 0 ∧ (license.bind License.features).bind Features.cloud = some true then some limit
    else none
  | _ => none

end Operation

/-- The limits that were pushed last in a run. -/
def lastPushed? (operations : List Operation) : Option ProductLimits :=
  (operations.filterMap Operation.pushed?).getLast?

/-- The limits for which a run has the cutoff computed, one after the other, from the card
limit and the license at its start. -/
def recomputations (limit : Int32) (license : Option License) : List Operation → List Int32
  | [] => []
  | operation :: rest =>
    (operation.recomputes? limit license).toList ++
      recomputations (operation.cardLimitAfter limit) (operation.licenseAfter license) rest

/-- The server after a run. -/
def Server.after (operations : List Operation) (server : Server MemoryStore) :
    Server MemoryStore :=
  (performAll operations server).2

/-- A run goes on from where its first operation ended, whether or not that failed. -/
theorem Server.after_cons (operation : Operation) (rest : List Operation)
    (server : Server MemoryStore) :
    server.after (operation :: rest) = (outcome operation.perform server).2.after rest := rfl

/-- The last push is the one of the rest of the run, if there is one. -/
theorem lastPushed?_cons (operation : Operation) (rest : List Operation) :
    lastPushed? (operation :: rest) = (lastPushed? rest).or operation.pushed? := by
  rw [lastPushed?, lastPushed?, List.filterMap_cons]
  cases operation.pushed? with
  | none => exact Option.or_none.symm
  | some limits =>
    rw [List.getLast?_cons]
    cases (rest.filterMap Operation.pushed?).getLast? <;> rfl

/-! ## One operation -/

/-- What an ordinary operation does to the limits, the license and the cutoff. -/
structure OrdinaryStep (operation : Operation) (before after : Server MemoryStore) : Prop where
  cardLimit : after.cardLimit = operation.cardLimitAfter before.cardLimit
  viewLimit :
    after.viewLimit = (operation.pushed?.map ProductLimits.viewLimit).getD before.viewLimit
  license : after.store.license = operation.licenseAfter before.store.license
  fetchFailure : after.store.fetchFailure = before.store.fetchFailure
  updates : after.store.cutoffUpdates = before.store.cutoffUpdates ++
    (operation.recomputes? before.cardLimit before.store.license).toList
  cutoff : after.store.cutoff =
    ((operation.recomputes? before.cardLimit before.store.license).map
      before.store.blocks.cutoffFor).getD before.store.cutoff

/-- A push has the cutoff computed for its card limit if that is another one than before. -/
theorem Operation.recomputes?_push (limits : Option ProductLimits) (limit : Int32)
    (license : Option License) :
    (request (.setLimits limits)).recomputes? limit license =
      if limit = (limits.getD {}).cardLimit then none else some (limits.getD {}).cardLimit := rfl

/-- A push puts its limits in place, and has the cutoff computed if its card limit is
another one than before. -/
theorem ordinaryStep_push (limits : Option ProductLimits) (server : Server MemoryStore) :
    OrdinaryStep (.request (.setLimits limits)) server (server.pushed limits) where
  cardLimit := server.pushed_cardLimit limits
  viewLimit := server.pushed_viewLimit limits
  license := server.pushed_license limits
  fetchFailure := server.pushed_fetchFailure limits
  updates := by
    rw [Server.pushed_cutoffUpdates, Operation.recomputes?_push]
    split <;> simp
  cutoff := by
    rw [Server.pushed_cutoff, Operation.recomputes?_push]
    split <;> rfl

/-- A refresh has the cutoff computed if a limit applies, and changes nothing else. -/
theorem ordinaryStep_refresh (server : Server MemoryStore) :
    OrdinaryStep (.request .refreshCutoff) server server.refreshed := by
  have computed : (Operation.request .refreshCutoff).recomputes? server.cardLimit
      server.store.license = if server.limitApplies then some server.cardLimit else none := by
    simp [Operation.recomputes?, Server.limitApplies, ← License.any_isCloud_iff]
  rw [Server.refreshed]
  cases applies : server.limitApplies with
  | false =>
    rw [applies] at computed
    exact {
      cardLimit := server.afterLimitCheck_cardLimit
      viewLimit := server.afterLimitCheck_viewLimit
      license := server.afterLimitCheck_license
      fetchFailure := server.afterLimitCheck_fetchFailure
      updates := by simp [computed]
      cutoff := by simp [computed] }
  | true =>
    rw [applies] at computed
    exact {
      cardLimit := server.afterLimitCheck_cardLimit
      viewLimit := server.afterLimitCheck_viewLimit
      license := server.afterLimitCheck_license
      fetchFailure := server.afterLimitCheck_fetchFailure
      updates := by simp [computed, Server.recomputed]
      cutoff := by simp [computed, Server.recomputed] }

/-- A reading leaves the limits, the license and the cutoff as they are. -/
theorem ordinaryStep_reading {asked : Request} (reading : asked.isReading = true)
    (server : Server MemoryStore) :
    OrdinaryStep (.request asked) server (outcome asked.perform server).2 := by
  obtain ⟨licenseReads, fetches, reached⟩ := Request.onlyReads_perform reading server
  have noPush : (Operation.request asked).pushed? = none := by
    cases asked <;> first | rfl | cases reading
  have noneComputed : (Operation.request asked).recomputes? server.cardLimit
      server.store.license = none := by
    cases asked <;> first | rfl | cases reading
  rw [reached]
  exact {
    cardLimit := by rw [Operation.cardLimitAfter, noPush]; rfl
    viewLimit := by rw [noPush]; rfl
    license := rfl
    fetchFailure := rfl
    updates := by rw [noneComputed]; exact (List.append_nil _).symm
    cutoff := by rw [noneComputed]; rfl }

/-- A change of the blocks leaves the limits, the license and the cutoff as they are. -/
theorem ordinaryStep_insertBlocks (container : Container) (blocks : List Block)
    (server : Server MemoryStore) :
    OrdinaryStep (.insertBlocks container blocks) server
      (outcome (Operation.insertBlocks container blocks).perform server).2 where
  cardLimit := rfl
  viewLimit := rfl
  license := rfl
  fetchFailure := rfl
  updates := (List.append_nil _).symm
  cutoff := rfl

/-- A change of the license leaves the limits and the cutoff as they are. -/
theorem ordinaryStep_setLicense (license : Option License) (server : Server MemoryStore) :
    OrdinaryStep (.setLicense license) server
      (outcome (Operation.setLicense license).perform server).2 where
  cardLimit := rfl
  viewLimit := rfl
  license := rfl
  fetchFailure := rfl
  updates := (List.append_nil _).symm
  cutoff := rfl

/-- What an ordinary operation does, from every state. -/
theorem ordinaryStep {operation : Operation} (ordinary : operation.isOrdinary = true)
    (server : Server MemoryStore) :
    OrdinaryStep operation server (outcome operation.perform server).2 := by
  cases operation with
  | insertBlocks container blocks => exact ordinaryStep_insertBlocks container blocks server
  | setLicense license => exact ordinaryStep_setLicense license server
  | setCutoff | insertTeam | failFetches | failSending => cases ordinary
  | request asked =>
    cases asked with
    | setLimits limits =>
      have returned : outcome (Operation.request (.setLimits limits)).perform server =
          (.ok .done, server.pushed limits) :=
        outcome_bind_ok (Server.outcome_setLimits limits server)
      rw [returned]
      exact ordinaryStep_push limits server
    | refreshCutoff =>
      have returned : outcome (Operation.request .refreshCutoff).perform server =
          (.ok .done, server.refreshed) :=
        outcome_bind_ok (Server.outcome_refreshCutoff server)
      rw [returned]
      exact ordinaryStep_refresh server
    | setCardLimit | requestUpgrade | askUsers | updateCutoff | send => cases ordinary
    | _ => exact ordinaryStep_reading rfl server

/-- The card limit after an operation is the one for which it has the cutoff computed; if
it does not, the card limit stays. -/
theorem Operation.cardLimitAfter_eq (operation : Operation) (limit : Int32)
    (license : Option License) :
    operation.cardLimitAfter limit = (operation.recomputes? limit license).getD limit := by
  cases operation with
  | request asked =>
    cases asked with
    | setLimits limits =>
      rw [recomputes?]
      split
      · rename_i unchanged
        exact unchanged.symm
      · rfl
    | refreshCutoff =>
      rw [recomputes?]
      split <;> rfl
    | _ => rfl
  | _ => rfl

/-! ## Whole runs -/

/-- What an ordinary run does to the limits, and which computations of the cutoff the store
records. -/
structure OrdinaryRun (operations : List Operation) (before after : Server MemoryStore) :
    Prop where
  cardLimit :
    after.cardLimit = ((lastPushed? operations).map ProductLimits.cardLimit).getD before.cardLimit
  viewLimit :
    after.viewLimit = ((lastPushed? operations).map ProductLimits.viewLimit).getD before.viewLimit
  fetchFailure : after.store.fetchFailure = before.store.fetchFailure
  updates : after.store.cutoffUpdates = before.store.cutoffUpdates ++
    recomputations before.cardLimit before.store.license operations

/-- What an ordinary run does, by induction on its operations, from what each of them does. -/
theorem ordinaryRun {operations : List Operation}
    (ordinary : ∀ operation ∈ operations, operation.isOrdinary = true)
    (server : Server MemoryStore) : OrdinaryRun operations server (server.after operations) := by
  induction operations generalizing server with
  | nil => exact ⟨rfl, rfl, rfl, (List.append_nil _).symm⟩
  | cons operation rest inductionHypothesis =>
    have step := ordinaryStep (ordinary operation List.mem_cons_self) server
    have run := inductionHypothesis
      (fun later member => ordinary later (List.mem_cons_of_mem _ member))
      (outcome operation.perform server).2
    rw [← Server.after_cons] at run
    refine ⟨?_, ?_, run.fetchFailure.trans step.fetchFailure, ?_⟩
    · rw [run.cardLimit, step.cardLimit, lastPushed?_cons, Operation.cardLimitAfter]
      cases lastPushed? rest <;> rfl
    · rw [run.viewLimit, step.viewLimit, lastPushed?_cons]
      cases lastPushed? rest <;> rfl
    · rw [run.updates, step.updates, step.cardLimit, step.license, recomputations,
        List.append_assoc]

/-- Where the cutoff after an ordinary run comes from.  Either it was never computed in the
run, and the card limit is the one from the start; or it was computed last by some operation,
for the card limit that holds still, from the blocks that were there at that moment. -/
theorem cutoff_after {operations : List Operation}
    (ordinary : ∀ operation ∈ operations, operation.isOrdinary = true)
    (server : Server MemoryStore) :
    ((server.after operations).store.cutoffUpdates = server.store.cutoffUpdates ∧
        (server.after operations).store.cutoff = server.store.cutoff ∧
        (server.after operations).cardLimit = server.cardLimit) ∨
      ∃ earlier operation later, operations = earlier ++ operation :: later ∧
        (server.after (earlier ++ [operation])).store.cutoffUpdates =
          (server.after earlier).store.cutoffUpdates ++ [(server.after operations).cardLimit] ∧
        (server.after operations).store.cutoffUpdates =
          (server.after (earlier ++ [operation])).store.cutoffUpdates ∧
        (server.after operations).store.cutoff =
          (server.after earlier).store.blocks.cutoffFor (server.after operations).cardLimit := by
  induction operations generalizing server with
  | nil => exact .inl ⟨rfl, rfl, rfl⟩
  | cons operation rest inductionHypothesis =>
    have step := ordinaryStep (ordinary operation List.mem_cons_self) server
    have limitAfter := operation.cardLimitAfter_eq server.cardLimit server.store.license
    have run := inductionHypothesis
      (fun later member => ordinary later (List.mem_cons_of_mem _ member))
      (outcome operation.perform server).2
    rw [← Server.after_cons] at run
    rcases run with ⟨noUpdate, sameCutoff, sameLimit⟩ | ⟨earlier, last, later, split, recorded⟩
    · -- Nothing was computed in the rest, so the first operation decides.
      cases computed : operation.recomputes? server.cardLimit server.store.license with
      | none =>
        rw [step.cardLimit, limitAfter, computed] at sameLimit
        rw [step.updates, computed] at noUpdate
        rw [step.cutoff, computed] at sameCutoff
        exact .inl ⟨noUpdate.trans (List.append_nil _), sameCutoff, sameLimit⟩
      | some limit =>
        rw [step.cardLimit, limitAfter, computed] at sameLimit
        rw [step.cutoff, computed] at sameCutoff
        refine .inr ⟨[], operation, rest, rfl, ?_, noUpdate, ?_⟩
        · rw [sameLimit]
          exact step.updates.trans (by rw [computed]; rfl)
        · rw [sameLimit]
          exact sameCutoff
    · exact .inr ⟨operation :: earlier, last, later, by rw [split]; rfl, recorded⟩

/-- After an ordinary run that started without a cutoff and ends without a positive card
limit there is no cutoff. -/
theorem cutoff_after_eq_zero {operations : List Operation}
    (ordinary : ∀ operation ∈ operations, operation.isOrdinary = true)
    {server : Server MemoryStore} (noCutoff : server.store.cutoff = 0)
    (unlimited : (server.after operations).cardLimit ≤ 0) :
    (server.after operations).store.cutoff = 0 := by
  rcases cutoff_after ordinary server with ⟨-, kept, -⟩ | ⟨_, _, _, -, -, -, computed⟩
  · exact kept.trans noCutoff
  · exact computed.trans (BlockTable.cutoffFor_of_not_positive unlimited)

/-! ## Main statement -/

/-- The law of an ordinary run of a fresh server.  Its limits are those of the last push, or
zero if there was none; a push without limits for boards, or with none for their cards or
their views, counts as one of zero.  The store records one computation of the cutoff for each
push of another card limit than the one before it, and one for each refresh while a limit
applies, and no others.  The cutoff is the one from the last of them, for the limit and the
blocks of that moment, or the one from the start.  So if there was none at the start and the
card limit is not positive at the end, there is none at the end: lists are served as they
are, and nothing belongs to a limited card. -/
theorem limits_and_cutoff_of_run (server : Server MemoryStore) (noCards : server.cardLimit = 0)
    (noViews : server.viewLimit = 0) (operations : List Operation)
    (ordinary : ∀ operation ∈ operations, operation.isOrdinary = true) :
    (server.after operations).cardLimit =
        (((lastPushed? operations).bind ProductLimits.boards).bind BoardsLimits.cards).getD 0 ∧
      (server.after operations).viewLimit =
        (((lastPushed? operations).bind ProductLimits.boards).bind BoardsLimits.views).getD 0 ∧
      (server.after operations).store.cutoffUpdates =
        server.store.cutoffUpdates ++ recomputations 0 server.store.license operations ∧
      (((server.after operations).store.cutoffUpdates = server.store.cutoffUpdates ∧
          (server.after operations).store.cutoff = server.store.cutoff) ∨
        ∃ earlier operation later limit, operations = earlier ++ operation :: later ∧
          (server.after (earlier ++ [operation])).store.cutoffUpdates =
            (server.after earlier).store.cutoffUpdates ++ [limit] ∧
          (server.after operations).store.cutoffUpdates =
            (server.after (earlier ++ [operation])).store.cutoffUpdates ∧
          (server.after operations).store.cutoff =
            (server.after earlier).store.blocks.cutoffFor limit) ∧
      (server.store.cutoff = 0 → (server.after operations).cardLimit ≤ 0 →
        (server.after operations).store.cutoff = 0 ∧
        ∀ container blocks,
          (server.store.fetchFailure = none →
            (outcome (Server.applyLimits container blocks) (server.after operations)).1 =
              .ok blocks) ∧
          (outcome (Server.holdsLimited container blocks) (server.after operations)).1 =
            .ok false) := by
  have run := ordinaryRun ordinary server
  refine ⟨?_, ?_, noCards ▸ run.updates, ?_, ?_⟩
  · rw [run.cardLimit, noCards]
    cases lastPushed? operations <;> rfl
  · rw [run.viewLimit, noViews]
    cases lastPushed? operations <;> rfl
  · rcases cutoff_after ordinary server with ⟨noUpdate, kept, -⟩ | ⟨earlier, operation, later, last⟩
    · exact .inl ⟨noUpdate, kept⟩
    · exact .inr ⟨earlier, operation, later, _, last⟩
  · intro noCutoff unlimited
    have nothing := cutoff_after_eq_zero ordinary noCutoff unlimited
    refine ⟨nothing, fun container blocks => ⟨fun noFailure => ?_, ?_⟩⟩
    · exact Server.answer_applyLimits_of_no_cutoff (run.fetchFailure.trans noFailure)
        (Int64.le_of_eq nothing) container blocks
    · rw [Server.outcome_holdsLimited_of_no_cutoff nothing]

/-- The sample server before any push. -/
def freshServer : Server MemoryStore :=
  { sampleServer with cardLimit := 0, store := { sampleServer.store with cutoff := 0 } }

/-- A run with a push, a new card, a refresh, one more without a license, a push of the same
number of cards without views, and a push of a card limit below zero with views. -/
def sampleRun : List Operation :=
  [.request (.setLimits (some { boards := some { cards := some 2, views := some 5 } })),
    .insertBlocks ⟨"0"⟩ [(Block.fresh "third" .card "board" "board").withUpdateAt 200],
    .request .refreshCutoff, .setLicense none, .request .refreshCutoff,
    .request (.setLimits (some (.withCards 2))),
    .request (.setLimits (some { boards := some { cards := some (-1), views := some 3 } }))]

/-- The sample run has the cutoff computed three times and leaves none.  The views are those of
its last push; up to the push before, which had no views, there are none. -/
theorem limits_and_cutoff_of_sampleRun :
    freshServer.cardLimit = 0 ∧ freshServer.viewLimit = 0 ∧
      (∀ operation ∈ sampleRun, operation.isOrdinary = true) ∧
      (freshServer.after sampleRun).cardLimit = -1 ∧
      (freshServer.after sampleRun).viewLimit = 3 ∧
      (freshServer.after sampleRun.dropLast).cardLimit = 2 ∧
      (freshServer.after sampleRun.dropLast).viewLimit = 0 ∧
      (freshServer.after sampleRun).store.cutoffUpdates = [2, 2, -1] ∧
      (freshServer.after sampleRun).store.cutoff = 0 ∧
      (outcome (Server.applyLimits ⟨"0"⟩ [oldCard "first" "board"])
        (freshServer.after sampleRun)).1 = .ok [oldCard "first" "board"] := by
  have ordinary : ∀ operation ∈ sampleRun, operation.isOrdinary = true := by
    simp [sampleRun, Operation.isOrdinary]
  obtain ⟨cards, views, updates, -, last⟩ :=
    limits_and_cutoff_of_run freshServer rfl rfl sampleRun ordinary
  obtain ⟨cardsBefore, viewsBefore, -⟩ :=
    limits_and_cutoff_of_run freshServer rfl rfl sampleRun.dropLast fun operation member =>
      ordinary operation ((List.dropLast_sublist _).subset member)
  have limit : (freshServer.after sampleRun).cardLimit = -1 := cards
  obtain ⟨noCutoff, serves⟩ := last rfl (by rw [limit]; decide)
  exact ⟨rfl, rfl, ordinary, limit, views, cardsBefore, viewsBefore, updates, noCutoff,
    (serves _ _).1 rfl⟩

end CardLimits
