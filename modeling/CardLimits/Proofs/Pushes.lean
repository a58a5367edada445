import CardLimits.Proofs.Outcome
import CardLimits.Store.ClosedDatabase
/-!
# Pushes over any store

A push puts both limits in place before it asks the store for the cutoff
(`outcome_setLimits_withLimits`), and a failure of the store does not take them back.
The next push of the same card limit therefore finds nothing to change, returns, and
leaves the cutoff of the limit before (`limits_after_failed_push`).  Only a push of
another card limit, or a refresh, reaches the store again.
-/

namespace CardLimits

/-- The card limit of a push: that of the limits for boards, zero where there is none. -/
theorem ProductLimits.cardLimit_getD (limits : Option ProductLimits) :
    (limits.getD {}).cardLimit =
      ((limits.bind ProductLimits.boards).bind BoardsLimits.cards).getD 0 := by
  cases limits <;> rfl

/-- The view limit of a push: that of the limits for boards, zero where there is none. -/
theorem ProductLimits.viewLimit_getD (limits : Option ProductLimits) :
    (limits.getD {}).viewLimit =
      ((limits.bind ProductLimits.boards).bind BoardsLimits.views).getD 0 := by
  cases limits <;> rfl

namespace Server

variable {σ : Type}

/-- The server with pushed limits in place, before its store is asked for anything. -/
def withLimits (limits : Option ProductLimits) (server : Server σ) : Server σ :=
  { server with
    cardLimit := (limits.getD {}).cardLimit
    viewLimit := (limits.getD {}).viewLimit }

variable [Store σ]

/-- A push over any store: the limits are in place in any case, and the store is asked for
the cutoff exactly if the card limit is another one than before. -/
theorem outcome_setLimits_withLimits (limits : Option ProductLimits) (server : Server σ) :
    outcome (setLimits limits) server =
      if server.cardLimit = (limits.getD {}).cardLimit then (.ok (), server.withLimits limits)
      else outcome (updateCutoff (limits.getD {}).cardLimit) (server.withLimits limits) := by
  simp only [setLimits, setViewLimit, changeCardLimit, outcome_bind, outcome_modify,
    outcome_modifyGet, outcome_ite, outcome_pure]
  by_cases unchanged : server.cardLimit = (limits.getD {}).cardLimit
  · simp [unchanged, withLimits]
  · simp [unchanged, withLimits]

/-- A push of the card limit that is in place returns without asking the store. -/
theorem outcome_setLimits_of_unchanged {limits : Option ProductLimits} {server : Server σ}
    (unchanged : server.cardLimit = (limits.getD {}).cardLimit) :
    outcome (setLimits limits) server = (.ok (), server.withLimits limits) := by
  rw [outcome_setLimits_withLimits, if_pos unchanged]

/-- Having the cutoff computed fails with an error exactly if the store fails with it, and
changes nothing but the store. -/
theorem outcome_updateCutoff_eq_error_iff {limit : Int32} {server after : Server σ}
    {error : AppError} :
    outcome (updateCutoff limit) server = (.error error, after) ↔
      ∃ store, outcome (Store.updateCutoff limit) server.store = (.error error, store) ∧
        after = { server with store } := by
  rw [updateCutoff, outcome_bind, outcome_onStore]
  obtain ⟨answer, store⟩ := outcome (Store.updateCutoff limit) server.store
  cases answer with
  | ok cutoff => simp
  | error reported =>
    constructor
    · rintro ⟨⟩
      exact ⟨store, rfl, rfl⟩
    · rintro ⟨_, ⟨⟩, rfl⟩
      rfl

/-- A push fails exactly if it changes the card limit and the store fails then; the error
is the one of the store. -/
theorem outcome_setLimits_eq_error_iff {limits : Option ProductLimits}
    {server after : Server σ} {error : AppError} :
    outcome (setLimits limits) server = (.error error, after) ↔
      server.cardLimit ≠ (limits.getD {}).cardLimit ∧
      ∃ store, outcome (Store.updateCutoff (limits.getD {}).cardLimit) server.store =
          (.error error, store) ∧
        after = { server.withLimits limits with store } := by
  rw [outcome_setLimits_withLimits]
  by_cases unchanged : server.cardLimit = (limits.getD {}).cardLimit
  · simp [unchanged]
  · rw [if_neg unchanged, outcome_updateCutoff_eq_error_iff, and_iff_right unchanged]
    rfl

/-- However often the card limit that is in place is pushed again, every push returns, and
the store is left as it is. -/
theorem outcome_forM_setLimits_of_unchanged {pushes : List (Option ProductLimits)}
    {server : Server σ}
    (unchanged : ∀ limits ∈ pushes, (limits.getD {}).cardLimit = server.cardLimit) :
    ∃ viewLimit, outcome (forM pushes setLimits) server = (.ok (), { server with viewLimit }) := by
  induction pushes generalizing server with
  | nil => exact ⟨server.viewLimit, rfl⟩
  | cons first rest inductionHypothesis =>
    have same := unchanged first List.mem_cons_self
    have firstPushed := outcome_setLimits_of_unchanged same.symm
    have restUnchanged : ∀ limits ∈ rest,
        (limits.getD {}).cardLimit = (server.withLimits first).cardLimit := by
      intro limits member
      exact (unchanged limits (List.mem_cons_of_mem _ member)).trans same.symm
    obtain ⟨viewLimit, restPushed⟩ := inductionHypothesis restUnchanged
    refine ⟨viewLimit, ?_⟩
    rw [List.forM_cons, outcome_bind_ok firstPushed, restPushed]
    simp [withLimits, same]

/-! ## Main statement -/

/-- A push that fails has put its limits in place all the same: the card limit is no longer
what it was, and neither is the view limit unless the pushed one equals it.  The failure
comes from the store.  As the limit is in place, pushing the same limits again returns in
the very state that the failure left, and any number of pushes of that card limit return
without a request to the store. -/
theorem limits_after_failed_push {limits : Option ProductLimits} {server after : Server σ}
    {error : AppError} (failed : outcome (setLimits limits) server = (.error error, after)) :
    after.cardLimit = (limits.getD {}).cardLimit ∧
      after.viewLimit = (limits.getD {}).viewLimit ∧
      after.cardLimit ≠ server.cardLimit ∧
      outcome (Store.updateCutoff after.cardLimit) server.store = (.error error, after.store) ∧
      outcome (setLimits limits) after = (.ok (), after) ∧
      ∀ pushes : List (Option ProductLimits),
        (∀ again ∈ pushes, (again.getD {}).cardLimit = (limits.getD {}).cardLimit) →
        ∃ viewLimit,
          outcome (forM pushes setLimits) after = (.ok (), { after with viewLimit }) := by
  obtain ⟨changed, store, storeFailed, rfl⟩ := outcome_setLimits_eq_error_iff.mp failed
  refine ⟨rfl, rfl, changed.symm, storeFailed, outcome_setLimits_of_unchanged rfl, ?_⟩
  intro pushes same
  exact outcome_forM_setLimits_of_unchanged same

end Server

/-- A server over a closed database, with room for three cards and two views. -/
def silentServer : Server ClosedDatabase where
  store := { license := some .cloud }
  cardLimit := 3
  viewLimit := 2

/-- Over the closed database a push of another card limit fails.  Once it has, one of that card
limit without views and one with other views both return. -/
theorem limits_after_failed_push_silentServer :
    ∃ after,
      outcome (Server.setLimits (some { boards := some ⟨some 5, some 3⟩ })) silentServer =
        (.error (.database .poolClosed), after) ∧
      after.cardLimit = 5 ∧ after.viewLimit = 3 ∧
      (outcome (forM [some (ProductLimits.withCards 5), some { boards := some ⟨some 5, some 7⟩ }]
        Server.setLimits) after).1 = .ok () := by
  have failed : outcome (Server.setLimits (some { boards := some ⟨some 5, some 3⟩ })) silentServer =
      (.error (.database .poolClosed),
        silentServer.withLimits (some { boards := some ⟨some 5, some 3⟩ })) := rfl
  obtain ⟨cards, views, -, -, -, again⟩ := Server.limits_after_failed_push failed
  obtain ⟨viewLimit, returned⟩ := again
    [some (.withCards 5), some { boards := some ⟨some 5, some 7⟩ }] (by decide)
  exact ⟨_, failed, cards, views, by rw [returned]⟩

/-- Taking the limits away fails over the closed database, yet they are gone afterwards, and
taking them away again returns, although no cutoff was stored. -/
theorem silentServer_forgets_limits :
    ∃ after,
      outcome (Server.setLimits none) silentServer = (.error (.database .poolClosed), after) ∧
      ¬ (after.cardLimit = silentServer.cardLimit ∧ after.viewLimit = silentServer.viewLimit) ∧
      outcome (Server.setLimits none) after = (.ok (), after) :=
  ⟨silentServer.withLimits none, rfl, by decide, rfl⟩

end CardLimits
