import CardLimits.Proofs.Outcome
/-!
# Requests that only read

Reading leaves traces in a store in memory: how often the license was read, and which
blocks were fetched.  An action only reads if these traces are all that it leaves
(`OnlyReads`), whether it returns or fails.  The requests that only read are made of
readings of the store, one after the other (`Request.onlyReads_perform`).
-/

namespace CardLimits

/-- The store with other traces of reading. -/
def MemoryStore.withTraces (licenseReads : Nat) (fetches : List (List String))
    (store : MemoryStore) : MemoryStore :=
  { store with licenseReads, fetches }

/-- The server with other traces of reading. -/
def Server.withTraces (licenseReads : Nat) (fetches : List (List String))
    (server : Server MemoryStore) : Server MemoryStore :=
  { server with store := server.store.withTraces licenseReads fetches }

/-- Whether an action leaves nothing but traces of reading, from every state. -/
def OnlyReads {α : Type} (action : Action (Server MemoryStore) α) : Prop :=
  ∀ server, ∃ licenseReads fetches,
    (outcome action server).2 = server.withTraces licenseReads fetches

namespace OnlyReads

variable {α β : Type}

/-- Returning a value leaves no traces. -/
theorem pure (value : α) : OnlyReads (Pure.pure value) := fun server =>
  ⟨server.store.licenseReads, server.store.fetches, rfl⟩

/-- Looking at the server leaves no traces. -/
theorem get : OnlyReads (MonadState.get : Action (Server MemoryStore) _) := fun server =>
  ⟨server.store.licenseReads, server.store.fetches, rfl⟩

/-- Two readings one after the other only read; if the first fails there is no second. -/
theorem bind {action : Action (Server MemoryStore) α}
    {next : α → Action (Server MemoryStore) β} (first : OnlyReads action)
    (second : ∀ value, OnlyReads (next value)) : OnlyReads (action >>= next) := by
  intro server
  obtain ⟨licenseReads, fetches, reached⟩ := first server
  rw [outcome_bind]
  rcases ran : outcome action server with ⟨answer, after⟩
  rw [ran] at reached
  obtain rfl : after = server.withTraces licenseReads fetches := reached
  cases answer with
  | error error => exact ⟨licenseReads, fetches, rfl⟩
  | ok value =>
    obtain ⟨laterReads, laterFetches, later⟩ :=
      second value (server.withTraces licenseReads fetches)
    exact ⟨laterReads, laterFetches, later⟩

/-- Whichever of two readings is chosen, it only reads. -/
theorem ite {condition : Prop} [Decidable condition]
    {positive negative : Action (Server MemoryStore) α} (first : OnlyReads positive)
    (second : OnlyReads negative) : OnlyReads (if condition then positive else negative) := by
  split
  · exact first
  · exact second

/-- An action on the store only reads if traces are all that it leaves in the store. -/
theorem onStore {action : Action MemoryStore α}
    (reads : ∀ store, ∃ licenseReads fetches,
      (outcome action store).2 = { store with licenseReads, fetches }) :
    OnlyReads (Server.onStore action) := by
  intro server
  obtain ⟨licenseReads, fetches, reached⟩ := reads server.store
  refine ⟨licenseReads, fetches, ?_⟩
  rw [outcome_onStore, reached]
  rfl

/-! ## Readings of the store -/

theorem license : OnlyReads (Server.onStore Store.license) :=
  onStore fun store => ⟨store.licenseReads + 1, store.fetches, rfl⟩

theorem cutoff : OnlyReads (Server.onStore Store.cutoff) :=
  onStore fun store => ⟨store.licenseReads, store.fetches, rfl⟩

theorem usedCards : OnlyReads (Server.onStore Store.usedCards) :=
  onStore fun store => ⟨store.licenseReads, store.fetches, rfl⟩

theorem team (workspaceId : String) : OnlyReads (Server.onStore (Store.team workspaceId)) :=
  onStore fun store => ⟨store.licenseReads, store.fetches, rfl⟩

/-- A fetch is recorded also if it fails. -/
theorem blocksByIds (container : Container) (ids : List String) :
    OnlyReads (Server.onStore (Store.blocksByIds container ids)) := by
  refine onStore fun store => ⟨store.licenseReads, store.fetches ++ [ids], ?_⟩
  rw [MemoryStore.outcome_blocksByIds]

/-! ## Readings of the server -/

theorem isCloud : OnlyReads Server.isCloud :=
  license.bind fun _ => pure _

theorem isLimited : OnlyReads Server.isLimited :=
  get.bind fun _ => ite (pure _) isCloud

theorem usage : OnlyReads Server.usage :=
  usedCards.bind fun _ => cutoff.bind fun _ => get.bind fun _ => pure _

theorem fetch (container : Container) (ids : List String) :
    OnlyReads (Server.fetch container ids) :=
  ite (pure _) (blocksByIds container ids)

theorem templates (container : Container) (blocks : List Block) :
    OnlyReads (Server.templates container blocks) :=
  (fetch container _).bind fun _ => pure _

theorem cards (container : Container) (blocks : List Block) :
    OnlyReads (Server.cards container blocks) :=
  (fetch container _).bind fun _ => pure _

theorem applyLimits (container : Container) (blocks : List Block) :
    OnlyReads (Server.applyLimits container blocks) :=
  isLimited.bind fun _ =>
    ite (cutoff.bind fun _ => (templates container blocks).bind fun _ => pure _) (pure _)

theorem holdsLimited (container : Container) (blocks : List Block) :
    OnlyReads (Server.holdsLimited container blocks) :=
  cutoff.bind fun _ => ite (pure _)
    ((cards container blocks).bind fun _ => (templates container _).bind fun _ => pure _)

end OnlyReads

/-- Whether a request only reads what the server and its store have. -/
def Request.isReading : Request → Bool
  | isCloud | isLimited | usage | templates .. | applyLimits .. | holdsLimited ..
  | license | cutoff | usedCards | blocksByIds .. | team _ => true
  | setCardLimit _ | setLimits _ | refreshCutoff | requestUpgrade _ | askUsers _
  | updateCutoff _ | send _ => false

/-- A request that only reads leaves nothing but traces of reading. -/
theorem Request.onlyReads_perform {asked : Request} (reading : asked.isReading = true) :
    OnlyReads (asked.perform : Action (Server MemoryStore) Answer) := by
  cases asked with
  | isCloud => exact OnlyReads.isCloud.bind fun _ => .pure _
  | isLimited => exact OnlyReads.isLimited.bind fun _ => .pure _
  | usage => exact OnlyReads.usage.bind fun _ => .pure _
  | templates container blocks => exact (OnlyReads.templates container blocks).bind fun _ => .pure _
  | applyLimits container blocks =>
    exact (OnlyReads.applyLimits container blocks).bind fun _ => .pure _
  | holdsLimited container blocks =>
    exact (OnlyReads.holdsLimited container blocks).bind fun _ => .pure _
  | license => exact OnlyReads.license.bind fun _ => .pure _
  | cutoff => exact OnlyReads.cutoff.bind fun _ => .pure _
  | usedCards => exact OnlyReads.usedCards.bind fun _ => .pure _
  | blocksByIds container ids => exact (OnlyReads.blocksByIds container ids).bind fun _ => .pure _
  | team workspaceId => exact (OnlyReads.team workspaceId).bind fun _ => .pure _
  | setCardLimit | setLimits | refreshCutoff | requestUpgrade | askUsers | updateCutoff | send =>
    cases reading

end CardLimits
