import CardLimits.Proofs.Limits
import CardLimits.Proofs.Serving
import Mathlib.Data.List.Dedup
/-!
# Interleaved pushes

A server can be shared, and a push is then atomic only step by step: it puts the view limit
in place, it swaps the card limit, and the store handles the request for the cutoff if the
card limit changed.  Between these steps the pushes of other callers may take theirs.

Whatever the schedule is, each of the three values is the one of the caller that performed
its step last (`LastWrites`).  Nothing makes these callers the same one.  When all pushes
have returned, the outcome is one of the outcomes of the pushes one after the other exactly
if a single caller pushed all three of these values (`limits_after_interleaved_pushes`).
Otherwise an update is lost: a limit can be taken away while the cutoff of another push
stays (`cutoff_outlives_cleared_limit`).
-/

namespace CardLimits

/-- The atomic steps of a push. -/
inductive PushStep where
  /-- Puts the view limit in place. -/
  | keepView
  /-- Swaps the card limit, and sees whether it changed. -/
  | changeLimit
  /-- The store handles the request for the cutoff. -/
  | compute
deriving DecidableEq

/-- Performs a step of a push, and says which one is next unless the push returns. -/
def PushStep.perform {σ : Type} [Store σ] (limits : ProductLimits) :
    PushStep → Action (Server σ) (Option PushStep)
  | keepView => do
    Server.setViewLimit limits.viewLimit
    return some changeLimit
  | changeLimit => do
    let changed ← Server.changeCardLimit limits.cardLimit
    return if changed then some compute else none
  | compute => do
    Server.updateCutoff limits.cardLimit
    return none

/-! ## Pushes in turn -/

namespace Server

/-- The server after pushes one after the other. -/
def pushedAll (pushes : List ProductLimits) (server : Server MemoryStore) : Server MemoryStore :=
  pushes.foldl (fun server limits => server.pushed (some limits)) server

/-- The first of some pushes goes before the others. -/
theorem pushedAll_cons (limits : ProductLimits) (pushes : List ProductLimits)
    (server : Server MemoryStore) :
    server.pushedAll (limits :: pushes) = (server.pushed (some limits)).pushedAll pushes :=
  rfl

/-- Pushes one after the other all return. -/
theorem outcome_forM_setLimits {Caller : Type} (limits : Caller → ProductLimits)
    (order : List Caller) (server : Server MemoryStore) :
    outcome (forM order fun caller => setLimits (some (limits caller))) server =
      (.ok (), server.pushedAll (order.map limits)) := by
  induction order generalizing server with
  | nil => rfl
  | cons first rest inductionHypothesis =>
    rw [List.forM_cons, outcome_bind_ok (outcome_setLimits _ server), inductionHypothesis,
      List.map_cons, pushedAll_cons]

/-- The last of some pushes follows the others. -/
theorem pushedAll_concat (pushes : List ProductLimits) (limits : ProductLimits)
    (server : Server MemoryStore) :
    server.pushedAll (pushes ++ [limits]) = (server.pushedAll pushes).pushed (some limits) :=
  List.foldl_concat ..

/-- Pushes of the card limit that is in place leave it and the cutoff. -/
theorem pushedAll_of_unchanged {pushes : List ProductLimits} {server : Server MemoryStore}
    (unchanged : ∀ limits ∈ pushes, limits.cardLimit = server.cardLimit) :
    (server.pushedAll pushes).cardLimit = server.cardLimit ∧
      (server.pushedAll pushes).store.cutoff = server.store.cutoff := by
  refine List.foldlRecOn (motive := fun reached : Server MemoryStore =>
    reached.cardLimit = server.cardLimit ∧ reached.store.cutoff = server.store.cutoff)
    pushes _ ⟨rfl, rfl⟩ ?_
  rintro reached ⟨sameLimit, sameCutoff⟩ limits member
  have same : limits.cardLimit = reached.cardLimit :=
    (unchanged limits member).trans sameLimit.symm
  exact ⟨by simp [same, sameLimit], by simp [same, sameCutoff]⟩

/-- If one of some pushes is of another card limit, the cutoff after all of them is the one
for the card limit that is in place then. -/
theorem pushedAll_of_changed {pushes : List ProductLimits} {server : Server MemoryStore}
    (changed : ∃ limits ∈ pushes, limits.cardLimit ≠ server.cardLimit) :
    (server.pushedAll pushes).store.cutoff =
      server.store.blocks.cutoffFor (server.pushedAll pushes).cardLimit := by
  induction pushes generalizing server with
  | nil => exact absurd changed (by simp)
  | cons first rest inductionHypothesis =>
    rw [pushedAll_cons]
    by_cases later : ∃ limits ∈ rest, limits.cardLimit ≠ (server.pushed (some first)).cardLimit
    · rw [← server.pushed_blocks (some first)]
      exact inductionHypothesis later
    · -- The first push is the only one that changes the card limit.
      have unchanged : ∀ limits ∈ rest,
          limits.cardLimit = (server.pushed (some first)).cardLimit := by
        simpa using later
      obtain ⟨sameLimit, sameCutoff⟩ := pushedAll_of_unchanged unchanged
      have moved : server.cardLimit ≠ first.cardLimit := by
        intro same
        obtain ⟨limits, member, other⟩ := changed
        rcases List.mem_cons.mp member with rfl | behind
        · exact other same.symm
        · exact other ((unchanged limits behind).trans (by simp [same]))
      calc ((server.pushed (some first)).pushedAll rest).store.cutoff
          = (server.pushed (some first)).store.cutoff := sameCutoff
        _ = server.store.blocks.cutoffFor first.cardLimit := by simp [moved]
        _ = server.store.blocks.cutoffFor
              ((server.pushed (some first)).pushedAll rest).cardLimit := by simp [sameLimit]

/-- If every caller has its turn, the limits are those of the last one, and so is the cutoff
unless all of them pushed the card limit that was in place. -/
theorem pushedAll_callers {Caller : Type} (limits : Caller → ProductLimits)
    {earlier : List Caller} {last : Caller} (everyone : ∀ caller, caller ∈ earlier ++ [last])
    (server : Server MemoryStore) :
    let inTurn := server.pushedAll ((earlier ++ [last]).map limits)
    inTurn.cardLimit = (limits last).cardLimit ∧ inTurn.viewLimit = (limits last).viewLimit ∧
      ((∀ caller, (limits caller).cardLimit = server.cardLimit) →
        inTurn.store.cutoff = server.store.cutoff) ∧
      ((∃ caller, (limits caller).cardLimit ≠ server.cardLimit) →
        inTurn.store.cutoff = server.store.blocks.cutoffFor (limits last).cardLimit) := by
  have concat : server.pushedAll ((earlier ++ [last]).map limits) =
      (server.pushedAll (earlier.map limits)).pushed (some (limits last)) := by
    rw [List.map_append, List.map_singleton, pushedAll_concat]
  have cardLimit : (server.pushedAll ((earlier ++ [last]).map limits)).cardLimit =
      (limits last).cardLimit := by
    rw [concat, pushed_cardLimit, Option.getD_some]
  refine ⟨cardLimit, ?_, fun same => ?_, fun ⟨caller, other⟩ => ?_⟩
  · rw [concat, pushed_viewLimit, Option.getD_some]
  · exact (pushedAll_of_unchanged (List.forall_mem_map.mpr fun caller _ => same caller)).2
  · rw [← cardLimit]
    exact pushedAll_of_changed ⟨_, List.mem_map_of_mem (everyone caller), other⟩

end Server

/-! ## Pushes at the same time -/

/-- A server that several callers push limits to, each of them once. -/
structure SharedServer (Caller σ : Type) where
  server : Server σ
  /-- The next step of each caller's push; none once it has returned. -/
  next : Caller → Option PushStep := fun _ => some .keepView
  /-- The caller that performed a step last, if any did. -/
  last : PushStep → Option Caller := fun _ => none

namespace SharedServer

variable {Caller σ : Type}

/-- What was done by someone if a caller has come to a step, or has returned. -/
def DoneBefore (last : PushStep → Option Caller) : Option PushStep → Prop
  | some .keepView => True
  | some .changeLimit => last .keepView ≠ none
  | some .compute | none => last .keepView ≠ none ∧ last .changeLimit ≠ none

/-- What was done by someone stays done. -/
theorem DoneBefore.update {last : PushStep → Option Caller} {next : Option PushStep}
    (done : DoneBefore last next) (step : PushStep) (caller : Caller) :
    DoneBefore (Function.update last step (some caller)) next := by
  have stays : ∀ earlier, last earlier ≠ none →
      Function.update last step (some caller) earlier ≠ none := by
    intro earlier performed
    rw [Function.update_apply]
    split
    · exact Option.some_ne_none caller
    · exact performed
  cases next with
  | none => exact ⟨stays _ done.1, stays _ done.2⟩
  | some coming =>
    cases coming with
    | keepView => trivial
    | changeLimit => exact stays _ done
    | compute => exact ⟨stays _ done.1, stays _ done.2⟩

/-- Every caller has done what comes before its next step, or someone has. -/
def InOrder (shared : SharedServer Caller σ) : Prop :=
  ∀ caller, DoneBefore shared.last (shared.next caller)

/-- Whether a request for the cutoff was handled, or one is about to be. -/
def Asked (shared : SharedServer Caller σ) : Prop :=
  (∃ caller, shared.next caller = some .compute) ∨ shared.last .compute ≠ none

variable [DecidableEq Caller]

/-- A caller performs the next step of its push, if it has not returned.  A push that fails
returns at once. -/
def advance [Store σ] (limits : Caller → ProductLimits) (shared : SharedServer Caller σ)
    (caller : Caller) : SharedServer Caller σ :=
  match shared.next caller with
  | none => shared
  | some step =>
    let (answer, server) := outcome (step.perform (limits caller)) shared.server
    { server
      next := Function.update shared.next caller (answer.toOption.getD none)
      last := Function.update shared.last step (some caller) }

/-- The callers perform their steps in the order of a schedule. -/
def run [Store σ] (limits : Caller → ProductLimits) (schedule : List Caller)
    (shared : SharedServer Caller σ) : SharedServer Caller σ :=
  schedule.foldl (advance limits) shared

section Steps

variable [Store σ] {limits : Caller → ProductLimits} {shared : SharedServer Caller σ}
  {caller : Caller}

/-- A caller whose push has returned has nothing left to do. -/
theorem advance_returned (returned : shared.next caller = none) :
    shared.advance limits caller = shared := by
  rw [advance, returned]

/-- The first step of a push. -/
theorem advance_keepView (atStep : shared.next caller = some .keepView) :
    shared.advance limits caller =
      { server := { shared.server with viewLimit := (limits caller).viewLimit }
        next := Function.update shared.next caller (some .changeLimit)
        last := Function.update shared.last .keepView (some caller) } := by
  rw [advance, atStep]
  rfl

/-- The second step of a push.  It is the last one if the card limit is in place. -/
theorem advance_changeLimit (atStep : shared.next caller = some .changeLimit) :
    shared.advance limits caller =
      { server := { shared.server with cardLimit := (limits caller).cardLimit }
        next := Function.update shared.next caller
          (if shared.server.cardLimit = (limits caller).cardLimit then none else some .compute)
        last := Function.update shared.last .changeLimit (some caller) } := by
  rw [advance, atStep]
  simp only [PushStep.perform, Server.changeCardLimit, outcome_bind, outcome_modifyGet,
    outcome_pure]
  split <;> simp_all [Except.toOption]

/-- The third step of a push.  Whether or not the store fails, it is the last one. -/
theorem advance_compute (atStep : shared.next caller = some .compute) :
    shared.advance limits caller =
      { server := (outcome (Server.updateCutoff (limits caller).cardLimit) shared.server).2
        next := Function.update shared.next caller none
        last := Function.update shared.last .compute (some caller) } := by
  rw [advance, atStep]
  simp only [PushStep.perform, outcome_bind]
  obtain ⟨answer, server⟩ :=
    outcome (Server.updateCutoff (limits caller).cardLimit) shared.server
  cases answer <;> rfl

/-- The steps of a push in a row are a call of `Server.setLimits`, over every store. -/
theorem run_alone (limits : Caller → ProductLimits) (caller : Caller) (server : Server σ) :
    (run limits [caller, caller, caller] { server }).server =
        (outcome (Server.setLimits (some (limits caller))) server).2 ∧
      (run limits [caller, caller, caller] { server }).next caller = none := by
  rw [run, List.foldl_cons, advance_keepView rfl, List.foldl_cons,
    advance_changeLimit (Function.update_self ..), List.foldl_cons, List.foldl_nil,
    Server.outcome_setLimits_withLimits]
  by_cases unchanged : server.cardLimit = (limits caller).cardLimit
  · rw [advance_returned (by simp [unchanged])]
    simp [unchanged, Server.withLimits]
  · rw [advance_compute (by simp [unchanged])]
    simp [unchanged, Server.withLimits]

end Steps

/-- Each of the three values is the one of the caller that performed its step last. -/
structure LastWrites (limits : Caller → ProductLimits) (before : Server MemoryStore)
    (shared : SharedServer Caller MemoryStore) : Prop where
  viewLimit : shared.server.viewLimit =
    ((shared.last .keepView).map fun caller => (limits caller).viewLimit).getD before.viewLimit
  cardLimit : shared.server.cardLimit =
    ((shared.last .changeLimit).map fun caller => (limits caller).cardLimit).getD before.cardLimit
  cutoff : shared.server.store.cutoff =
    ((shared.last .compute).map fun caller =>
      before.store.blocks.cutoffFor (limits caller).cardLimit).getD before.store.cutoff
  blocks : shared.server.store.blocks = before.store.blocks

/-- A step writes its own value and leaves the other two. -/
theorem LastWrites.advance {limits : Caller → ProductLimits} {before : Server MemoryStore}
    {shared : SharedServer Caller MemoryStore} (writes : LastWrites limits before shared)
    (caller : Caller) : LastWrites limits before (shared.advance limits caller) := by
  cases atStep : shared.next caller with
  | none =>
    rw [advance_returned atStep]
    exact writes
  | some step =>
    cases step with
    | keepView =>
      rw [advance_keepView atStep]
      exact { writes with viewLimit := by simp }
    | changeLimit =>
      rw [advance_changeLimit atStep]
      exact { writes with cardLimit := by simp }
    | compute =>
      rw [advance_compute atStep]
      exact { writes with
        cutoff := by
          simp [Server.outcome_updateCutoff, Server.recomputed, writes.blocks] }

/-- No step is skipped. -/
theorem InOrder.advance [Store σ] {limits : Caller → ProductLimits}
    {shared : SharedServer Caller σ} (inOrder : shared.InOrder) (caller : Caller) :
    (shared.advance limits caller).InOrder := by
  have others := fun step => fun other (_ : other ≠ caller) =>
    (inOrder other).update step caller
  have own := inOrder caller
  cases atStep : shared.next caller with
  | none =>
    rw [advance_returned atStep]
    exact inOrder
  | some step =>
    rw [atStep] at own
    cases step with
    | keepView =>
      rw [advance_keepView atStep]
      refine (Function.forall_update_iff _ fun _ => DoneBefore _).mpr ⟨?_, others _⟩
      simp [DoneBefore]
    | changeLimit =>
      rw [advance_changeLimit atStep]
      refine (Function.forall_update_iff _ fun _ => DoneBefore _).mpr ⟨?_, others _⟩
      have done : DoneBefore (Function.update shared.last .changeLimit (some caller)) none :=
        ⟨own.update _ _, by simp⟩
      split <;> exact done
    | compute =>
      rw [advance_compute atStep]
      refine (Function.forall_update_iff _ fun _ => DoneBefore _).mpr ⟨?_, others _⟩
      exact own.update .compute caller

/-- A step before the last one makes a request only if the last one is next. -/
theorem exists_update_eq_compute_iff {next : Caller → Option PushStep} {caller : Caller}
    (before : next caller ≠ some .compute) (coming : Option PushStep) :
    (∃ other, Function.update next caller coming other = some .compute) ↔
      coming = some .compute ∨ ∃ other, next other = some .compute := by
  rw [Function.exists_update_iff (p := fun _ step => step = some PushStep.compute)]
  refine or_congr_right ⟨fun ⟨other, _, computes⟩ => ⟨other, computes⟩, ?_⟩
  rintro ⟨other, computes⟩
  exact ⟨other, fun same => before (same ▸ computes), computes⟩

section Asked

variable [Store σ] {limits : Caller → ProductLimits} {shared : SharedServer Caller σ}
  {caller : Caller}

/-- The first step of a push makes no request. -/
theorem asked_advance_keepView (atStep : shared.next caller = some .keepView) :
    (shared.advance limits caller).Asked ↔ shared.Asked := by
  have before : shared.next caller ≠ some .compute := by simp [atStep]
  rw [advance_keepView atStep, Asked, Asked, exists_update_eq_compute_iff before]
  simp

/-- The second step of a push makes a request exactly if it changes the card limit. -/
theorem asked_advance_changeLimit (atStep : shared.next caller = some .changeLimit) :
    (shared.advance limits caller).Asked ↔
      shared.server.cardLimit ≠ (limits caller).cardLimit ∨ shared.Asked := by
  have before : shared.next caller ≠ some .compute := by simp [atStep]
  rw [advance_changeLimit atStep, Asked, Asked, exists_update_eq_compute_iff before]
  simp [or_assoc]

end Asked

/-- As long as nobody asked the store, the card limit has not moved, and whoever returned
pushed the one from the start.  Someone who asked pushed another one. -/
structure Requests (limits : Caller → ProductLimits) (before : Server MemoryStore)
    (shared : SharedServer Caller MemoryStore) : Prop where
  unmoved : ¬ shared.Asked → shared.server.cardLimit = before.cardLimit ∧
    ∀ caller, shared.next caller = none → (limits caller).cardLimit = before.cardLimit
  moved : shared.Asked → ∃ caller, (limits caller).cardLimit ≠ before.cardLimit

/-- Every step keeps the account of the requests. -/
theorem Requests.advance {limits : Caller → ProductLimits} {before : Server MemoryStore}
    {shared : SharedServer Caller MemoryStore} (requests : Requests limits before shared)
    (caller : Caller) : Requests limits before (shared.advance limits caller) := by
  cases atStep : shared.next caller with
  | none =>
    rw [advance_returned atStep]
    exact requests
  | some step =>
    cases step with
    | keepView =>
      have sameAsked : (shared.advance limits caller).Asked ↔ shared.Asked :=
        asked_advance_keepView atStep
      refine ⟨fun quiet => ?_, fun asked => requests.moved (sameAsked.mp asked)⟩
      obtain ⟨sameLimit, returned⟩ := requests.unmoved (mt sameAsked.mpr quiet)
      rw [advance_keepView atStep]
      refine ⟨sameLimit, (Function.forall_update_iff _ fun other next =>
        next = none → (limits other).cardLimit = before.cardLimit).mpr ⟨nofun, ?_⟩⟩
      exact fun other _ => returned other
    | changeLimit =>
      have asksNow : (shared.advance limits caller).Asked ↔
          shared.server.cardLimit ≠ (limits caller).cardLimit ∨ shared.Asked :=
        asked_advance_changeLimit atStep
      refine ⟨fun quiet => ?_, fun asked => ?_⟩
      · obtain ⟨unchanged, notAsked⟩ := not_or.mp (mt asksNow.mpr quiet)
        obtain ⟨sameLimit, returned⟩ := requests.unmoved notAsked
        have ownLimit := (not_not.mp unchanged).symm.trans sameLimit
        rw [advance_changeLimit atStep]
        refine ⟨ownLimit, (Function.forall_update_iff _ fun other next =>
          next = none → (limits other).cardLimit = before.cardLimit).mpr ⟨fun _ => ownLimit, ?_⟩⟩
        exact fun other _ => returned other
      · by_cases asked : shared.Asked
        · exact requests.moved asked
        · have changed := (asksNow.mp ‹_›).resolve_right asked
          exact ⟨caller, fun same => changed ((requests.unmoved asked).1.trans same.symm)⟩
    | compute =>
      have asked : shared.Asked := .inl ⟨caller, atStep⟩
      refine ⟨fun quiet => absurd (Or.inr ?_) quiet, fun _ => requests.moved asked⟩
      rw [advance_compute atStep]
      simp

/-! ## Whole schedules -/

section Schedules

variable (limits : Caller → ProductLimits) (schedule : List Caller)

/-- After every schedule each value is the one of the caller that wrote it last. -/
theorem lastWrites_run (server : Server MemoryStore) :
    LastWrites limits server (run limits schedule { server }) :=
  List.foldlRecOn schedule (advance limits) ⟨rfl, rfl, rfl, rfl⟩
    fun _ writes caller _ => writes.advance caller

/-- In no schedule is a step skipped. -/
theorem inOrder_run [Store σ] (server : Server σ) : (run limits schedule { server }).InOrder :=
  List.foldlRecOn schedule (advance limits) (fun _ => trivial)
    fun _ inOrder caller _ => inOrder.advance caller

/-- After every schedule the store was asked only if the card limit moved. -/
theorem requests_run (server : Server MemoryStore) :
    Requests limits server (run limits schedule { server }) := by
  have nobodyAsked : ¬ Asked ({ server } : SharedServer Caller MemoryStore) := by
    simp [Asked]
  exact List.foldlRecOn schedule (advance limits)
    ⟨fun _ => ⟨rfl, nofun⟩, fun asked => absurd asked nobodyAsked⟩
    fun _ requests caller _ => requests.advance caller

variable {limits schedule}

/-- A step of one caller leaves the next steps of the others. -/
theorem advance_next_of_ne [Store σ] {caller other : Caller} (different : other ≠ caller)
    (shared : SharedServer Caller σ) :
    (shared.advance limits caller).next other = shared.next other := by
  rw [advance]
  split
  · rfl
  · exact Function.update_of_ne different _ _

/-- A push returns only if the schedule has its caller perform a step. -/
theorem mem_of_returned [Store σ] {caller : Caller} {shared : SharedServer Caller σ}
    (returned : (run limits schedule shared).next caller = none)
    (notYet : shared.next caller ≠ none) : caller ∈ schedule := by
  induction schedule generalizing shared with
  | nil => exact absurd returned notYet
  | cons first rest inductionHypothesis =>
    by_cases own : caller = first
    · exact own ▸ List.mem_cons_self
    · have notYet' : (shared.advance limits first).next caller ≠ none := by
        rwa [advance_next_of_ne own]
      exact List.mem_cons_of_mem _ (inductionHypothesis returned notYet')

end Schedules

/-! ## Lost updates -/

/-- Whether a server comes to the same limits and the same cutoff as by the pushes of all
callers one after the other, in some order. -/
def Serializable (limits : Caller → ProductLimits) (before after : Server MemoryStore) : Prop :=
  ∃ (order : List Caller) (inTurn : Server MemoryStore),
    order.Nodup ∧ (∀ caller, caller ∈ order) ∧
    outcome (forM order fun caller => Server.setLimits (some (limits caller))) before =
      (.ok (), inTurn) ∧
    after.cardLimit = inTurn.cardLimit ∧ after.viewLimit = inTurn.viewLimit ∧
    after.store.cutoff = inTurn.store.cutoff

/-- Any caller can be the last one of an order. -/
theorem exists_order_with_last {schedule : List Caller} (everyone : ∀ caller, caller ∈ schedule)
    (last : Caller) :
    ∃ earlier, (earlier ++ [last]).Nodup ∧ ∀ caller, caller ∈ earlier ++ [last] := by
  have inOrder : (schedule.dedup.erase last ++ [last]).Perm schedule.dedup :=
    (List.perm_append_singleton last _).trans
      (List.perm_cons_erase (List.mem_dedup.mpr (everyone last))).symm
  refine ⟨schedule.dedup.erase last, inOrder.nodup_iff.mpr schedule.nodup_dedup, ?_⟩
  intro caller
  exact inOrder.mem_iff.mpr (List.mem_dedup.mpr (everyone caller))

variable {limits : Caller → ProductLimits} {schedule : List Caller} {server : Server MemoryStore}

/-- Once all pushes have returned, the store was asked exactly if one of them is of another
card limit than the one from the start. -/
theorem last_compute_eq_none_iff
    (returned : ∀ caller, (run limits schedule { server }).next caller = none) :
    (run limits schedule { server }).last .compute = none ↔
      ∀ caller, (limits caller).cardLimit = server.cardLimit := by
  have requests := requests_run limits schedule server
  have asked : (run limits schedule { server }).Asked ↔
      (run limits schedule { server }).last .compute ≠ none := by
    simp [Asked, returned]
  constructor
  · intro nobody caller
    exact (requests.unmoved (mt asked.mp (not_not.mpr nobody))).2 caller (returned caller)
  · intro same
    by_contra somebody
    obtain ⟨caller, other⟩ := requests.moved (asked.mpr somebody)
    exact other (same caller)

/-- The view limit is the one of the caller that put its own in place last. -/
theorem viewLimit_run {keeper : Caller}
    (kept : (run limits schedule { server }).last .keepView = some keeper) :
    (run limits schedule { server }).server.viewLimit = (limits keeper).viewLimit := by
  rw [(lastWrites_run limits schedule server).viewLimit, kept, Option.map_some, Option.getD_some]

/-- The card limit is the one of the caller that put its own in place last. -/
theorem cardLimit_run {changer : Caller}
    (changed : (run limits schedule { server }).last .changeLimit = some changer) :
    (run limits schedule { server }).server.cardLimit = (limits changer).cardLimit := by
  rw [(lastWrites_run limits schedule server).cardLimit, changed, Option.map_some,
    Option.getD_some]

/-- The cutoff is the one for the card limit of the caller whose request was handled last. -/
theorem cutoff_run {computer : Caller}
    (asked : (run limits schedule { server }).last .compute = some computer) :
    (run limits schedule { server }).server.store.cutoff =
      server.store.blocks.cutoffFor (limits computer).cardLimit := by
  rw [(lastWrites_run limits schedule server).cutoff, asked, Option.map_some, Option.getD_some]

/-- Without a request the cutoff is the one from the start. -/
theorem cutoff_run_of_quiet (quiet : (run limits schedule { server }).last .compute = none) :
    (run limits schedule { server }).server.store.cutoff = server.store.cutoff := by
  rw [(lastWrites_run limits schedule server).cutoff, quiet, Option.map_none, Option.getD_none]

/-- Once all pushes have returned, no update is lost exactly if one caller pushed the view
limit that was put in place last, the card limit that was put in place last, and a card
limit with the cutoff that was computed last, if any was. -/
theorem serializable_iff {keeper changer : Caller}
    (returned : ∀ caller, (run limits schedule { server }).next caller = none)
    (kept : (run limits schedule { server }).last .keepView = some keeper)
    (changed : (run limits schedule { server }).last .changeLimit = some changer) :
    Serializable limits server (run limits schedule { server }).server ↔
      ∃ caller, (limits caller).viewLimit = (limits keeper).viewLimit ∧
        (limits caller).cardLimit = (limits changer).cardLimit ∧
        ∀ computer, (run limits schedule { server }).last .compute = some computer →
          server.store.blocks.cutoffFor (limits caller).cardLimit =
            server.store.blocks.cutoffFor (limits computer).cardLimit := by
  have unasked := last_compute_eq_none_iff returned
  constructor
  · rintro ⟨order, inTurn, -, everyone, pushes, sameCards, sameViews, sameCutoff⟩
    obtain rfl | ⟨earlier, last, rfl⟩ := List.eq_nil_or_concat' order
    · exact absurd (everyone keeper) List.not_mem_nil
    · rw [Server.outcome_forM_setLimits] at pushes
      obtain ⟨cards, views, -, computed⟩ := Server.pushedAll_callers limits everyone server
      rw [(Prod.mk.inj pushes).2] at cards views computed
      refine ⟨last, ?_, ?_, fun computer asked => ?_⟩
      · rw [← views, ← sameViews, viewLimit_run kept]
      · rw [← cards, ← sameCards, cardLimit_run changed]
      · have other := not_forall.mp (mt unasked.mpr (by simp [asked]))
        rw [← computed other, ← sameCutoff, cutoff_run asked]
  · rintro ⟨last, sameViews, sameCards, sameCutoff⟩
    have everyone : ∀ caller, caller ∈ schedule :=
      fun caller => mem_of_returned (returned caller) (Option.some_ne_none _)
    obtain ⟨earlier, distinct, all⟩ := exists_order_with_last everyone last
    obtain ⟨cards, views, unchanged, computed⟩ := Server.pushedAll_callers limits all server
    refine ⟨_, _, distinct, all, Server.outcome_forM_setLimits limits _ server, ?_, ?_, ?_⟩
    · rw [cards, cardLimit_run changed, sameCards]
    · rw [views, viewLimit_run kept, sameViews]
    · cases asked : (run limits schedule { server }).last .compute with
      | none => rw [cutoff_run_of_quiet asked, unchanged (unasked.mp asked)]
      | some computer =>
        have other := not_forall.mp (mt unasked.mpr (by simp [asked]))
        rw [cutoff_run asked, computed other, sameCutoff computer asked]

/-! ## Main statement -/

/-- What any number of pushes at the same time come to, under every schedule that lets all of
them return.  The view limit, the card limit and the cutoff are those of the callers that
performed their steps last; the store is not asked at all exactly if every push is of the card
limit from the start.  The three callers need not agree: no update is lost exactly if the
values that they left behind could be those of one caller. -/
theorem limits_after_interleaved_pushes [Nonempty Caller] (limits : Caller → ProductLimits)
    (server : Server MemoryStore) (schedule : List Caller)
    (returned : ∀ caller, (run limits schedule { server }).next caller = none) :
    ∃ keeper changer,
      let shared := run limits schedule { server }
      shared.last .keepView = some keeper ∧ shared.last .changeLimit = some changer ∧
      shared.server.viewLimit = (limits keeper).viewLimit ∧
      shared.server.cardLimit = (limits changer).cardLimit ∧
      (shared.last .compute = none ↔ ∀ caller, (limits caller).cardLimit = server.cardLimit) ∧
      (shared.last .compute = none → shared.server.store.cutoff = server.store.cutoff) ∧
      (∀ computer, shared.last .compute = some computer →
        shared.server.store.cutoff =
          server.store.blocks.cutoffFor (limits computer).cardLimit) ∧
      (Serializable limits server shared.server ↔
        ∃ caller, (limits caller).viewLimit = (limits keeper).viewLimit ∧
          (limits caller).cardLimit = (limits changer).cardLimit ∧
          ∀ computer, shared.last .compute = some computer →
            server.store.blocks.cutoffFor (limits caller).cardLimit =
              server.store.blocks.cutoffFor (limits computer).cardLimit) := by
  obtain ⟨someone⟩ := ‹Nonempty Caller›
  have done := inOrder_run limits schedule server someone
  rw [returned someone] at done
  obtain ⟨keeper, kept⟩ := Option.ne_none_iff_exists'.mp done.1
  obtain ⟨changer, changed⟩ := Option.ne_none_iff_exists'.mp done.2
  exact ⟨keeper, changer, kept, changed, viewLimit_run kept, cardLimit_run changed,
    last_compute_eq_none_iff returned, fun quiet => cutoff_run_of_quiet quiet,
    fun computer asked => cutoff_run asked, serializable_iff returned kept changed⟩

end SharedServer

/-- Two callers: one pushes room for two cards, the other one takes the limits away. -/
def pushAndClear : Fin 2 → ProductLimits
  | 0 => .withCards 2
  | 1 => {}

/-- The caller that pushes performs its swap and its request between the first and the second
step of the one that clears.  Nothing is lost, as the latter comes last in all of its steps. -/
theorem limits_after_nested_push :
    (∀ caller, (SharedServer.run pushAndClear [0, 1, 0, 0, 1, 1] { server := sampleServer }).next
        caller = none) ∧
      SharedServer.Serializable pushAndClear sampleServer
        (SharedServer.run pushAndClear [0, 1, 0, 0, 1, 1] { server := sampleServer }).server := by
  have returned : ∀ caller, (SharedServer.run pushAndClear [0, 1, 0, 0, 1, 1]
      { server := sampleServer }).next caller = none := by
    decide
  obtain ⟨keeper, changer, kept, changed, -, -, -, -, -, serializable⟩ :=
    SharedServer.limits_after_interleaved_pushes pushAndClear sampleServer [0, 1, 0, 0, 1, 1]
      returned
  have second : keeper = 1 ∧ changer = 1 :=
    ⟨(Option.some.inj kept).symm, (Option.some.inj changed).symm⟩
  refine ⟨returned, serializable.mpr ⟨1, by rw [second.1], by rw [second.2], ?_⟩⟩
  rintro computer ⟨⟩
  rfl

/-- The request of the caller that pushes is handled after everything that the other one does.
The limits are gone then, but the cutoff for two cards is there; the pushes in turn leave no
cutoff without a card limit. -/
theorem cutoff_outlives_cleared_limit :
    let shared := SharedServer.run pushAndClear [0, 0, 1, 1, 1, 0] { server := sampleServer }
    (∀ caller, shared.next caller = none) ∧
      shared.server.cardLimit = 0 ∧ shared.server.viewLimit = 0 ∧
      shared.server.store.cutoff = 100 ∧
      ¬ SharedServer.Serializable pushAndClear sampleServer shared.server := by
  have returned : ∀ caller, (SharedServer.run pushAndClear [0, 0, 1, 1, 1, 0]
      { server := sampleServer }).next caller = none := by
    decide
  refine ⟨returned, rfl, rfl, cutoffFor_two_sampleServer, ?_⟩
  rw [SharedServer.serializable_iff returned rfl rfl]
  rintro ⟨caller, -, sameCards, sameCutoff⟩
  have cutoffs := sameCutoff 0 rfl
  rw [sameCards] at cutoffs
  have noCutoff : sampleServer.store.blocks.cutoffFor (pushAndClear 1).cardLimit = 0 := rfl
  have lost : (0 : Int64) = 100 := noCutoff.symm.trans (cutoffs.trans cutoffFor_two_sampleServer)
  exact absurd lost (by decide)

end CardLimits
