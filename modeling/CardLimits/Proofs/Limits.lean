import CardLimits.Proofs.Pushes
/-!
# Limits over a store in memory

Over a store in memory nothing that a server does with its limits can fail, and
each call has one state to end in.  `Server.pushed` is the state after a push: the
cutoff is computed anew exactly if the card limit is another one than before.
-/

namespace CardLimits.Server

/-- Whether a card limit applies: there is one, and the license is one for the cloud. -/
def limitApplies (server : Server MemoryStore) : Bool :=
  server.cardLimit ≠ 0 && server.store.license.any License.isCloud

/-- The server after it was asked whether a limit applies. -/
def afterLimitCheck (server : Server MemoryStore) : Server MemoryStore :=
  if server.cardLimit = 0 then server
  else { server with store :=
    { server.store with licenseReads := server.store.licenseReads + 1 } }

/-- The server after its store computed the cutoff for a limit. -/
def recomputed (limit : Int32) (server : Server MemoryStore) : Server MemoryStore :=
  { server with store :=
    { server.store with
      cutoff := server.store.blocks.cutoffFor limit
      cutoffUpdates := server.store.cutoffUpdates ++ [limit] } }

/-- The server after limits were pushed to it. -/
def pushed (limits : Option ProductLimits) (server : Server MemoryStore) : Server MemoryStore :=
  let limits := limits.getD {}
  let kept := { server with cardLimit := limits.cardLimit, viewLimit := limits.viewLimit }
  if server.cardLimit = limits.cardLimit then kept else kept.recomputed limits.cardLimit

/-- The server after the cutoff was computed anew, as far as a limit applies. -/
def refreshed (server : Server MemoryStore) : Server MemoryStore :=
  if server.limitApplies then server.afterLimitCheck.recomputed server.cardLimit
  else server.afterLimitCheck

/-- What the server tells its clients about its limits. -/
def usageNow (server : Server MemoryStore) : Usage where
  cards := server.cardLimit
  usedCards := Int64.ofNat server.store.blocks.countedCards.length
  cutoff := server.store.cutoff
  views := server.viewLimit

section Frame

variable (server : Server MemoryStore)

@[simp]
theorem afterLimitCheck_cutoff : server.afterLimitCheck.store.cutoff = server.store.cutoff := by
  unfold afterLimitCheck
  split <;> rfl

@[simp]
theorem afterLimitCheck_blocks : server.afterLimitCheck.store.blocks = server.store.blocks := by
  unfold afterLimitCheck
  split <;> rfl

@[simp]
theorem afterLimitCheck_license : server.afterLimitCheck.store.license = server.store.license := by
  unfold afterLimitCheck
  split <;> rfl

@[simp]
theorem afterLimitCheck_fetches : server.afterLimitCheck.store.fetches = server.store.fetches := by
  unfold afterLimitCheck
  split <;> rfl

@[simp]
theorem afterLimitCheck_fetchFailure :
    server.afterLimitCheck.store.fetchFailure = server.store.fetchFailure := by
  unfold afterLimitCheck
  split <;> rfl

@[simp]
theorem afterLimitCheck_cardLimit : server.afterLimitCheck.cardLimit = server.cardLimit := by
  unfold afterLimitCheck
  split <;> rfl

@[simp]
theorem afterLimitCheck_viewLimit : server.afterLimitCheck.viewLimit = server.viewLimit := by
  unfold afterLimitCheck
  split <;> rfl

@[simp]
theorem afterLimitCheck_cutoffUpdates :
    server.afterLimitCheck.store.cutoffUpdates = server.store.cutoffUpdates := by
  unfold afterLimitCheck
  split <;> rfl

variable (limits : Option ProductLimits)

@[simp]
theorem pushed_cardLimit : (server.pushed limits).cardLimit = (limits.getD {}).cardLimit := by
  simp only [pushed]
  split <;> rfl

@[simp]
theorem pushed_viewLimit : (server.pushed limits).viewLimit = (limits.getD {}).viewLimit := by
  simp only [pushed]
  split <;> rfl

@[simp]
theorem pushed_blocks : (server.pushed limits).store.blocks = server.store.blocks := by
  simp only [pushed]
  split <;> rfl

@[simp]
theorem pushed_license : (server.pushed limits).store.license = server.store.license := by
  simp only [pushed]
  split <;> rfl

@[simp]
theorem pushed_fetchFailure :
    (server.pushed limits).store.fetchFailure = server.store.fetchFailure := by
  simp only [pushed]
  split <;> rfl

/-- The store records the card limit of a push exactly if it is another one than before. -/
@[simp]
theorem pushed_cutoffUpdates :
    (server.pushed limits).store.cutoffUpdates =
      if server.cardLimit = (limits.getD {}).cardLimit then server.store.cutoffUpdates
      else server.store.cutoffUpdates ++ [(limits.getD {}).cardLimit] := by
  simp only [pushed]
  split <;> rfl

/-- A push of another card limit makes the cutoff the one for it; a push of the same one
leaves the cutoff as it is. -/
@[simp]
theorem pushed_cutoff :
    (server.pushed limits).store.cutoff =
      if server.cardLimit = (limits.getD {}).cardLimit then server.store.cutoff
      else server.store.blocks.cutoffFor (limits.getD {}).cardLimit := by
  simp only [pushed]
  split <;> rfl

end Frame

/-- A limit applies exactly if there is one and the license is one for the cloud. -/
theorem limitApplies_iff {server : Server MemoryStore} :
    server.limitApplies = true ↔
      server.cardLimit ≠ 0 ∧ server.store.license.any License.isCloud = true := by
  simp [limitApplies]

/-- Asking whether a limit applies. -/
theorem outcome_isLimited (server : Server MemoryStore) :
    outcome isLimited server = (.ok server.limitApplies, server.afterLimitCheck) := by
  simp only [isLimited, isCloud, outcome_bind, outcome_get, outcome_ite, outcome_onStore,
    Store.license, MemoryStore.readLicense, outcome_modifyGet, outcome_pure]
  by_cases unlimited : server.cardLimit = 0
  · simp [limitApplies, afterLimitCheck, unlimited]
  · simp [limitApplies, afterLimitCheck, unlimited]

/-- Having the cutoff computed. -/
theorem outcome_updateCutoff (limit : Int32) (server : Server MemoryStore) :
    outcome (updateCutoff limit) server = (.ok (), server.recomputed limit) := rfl

/-- Pushing limits never fails. -/
theorem outcome_setLimits (limits : Option ProductLimits) (server : Server MemoryStore) :
    outcome (setLimits limits) server = (.ok (), server.pushed limits) := by
  rw [outcome_setLimits_withLimits, outcome_updateCutoff, pushed]
  split <;> rfl

/-- Refreshing the cutoff never fails. -/
theorem outcome_refreshCutoff (server : Server MemoryStore) :
    outcome refreshCutoff server = (.ok (), server.refreshed) := by
  simp only [refreshCutoff, outcome_bind, outcome_isLimited, refreshed]
  cases server.limitApplies with
  | false => rfl
  | true =>
    simp only [if_true, outcome_bind, outcome_get, outcome_updateCutoff, afterLimitCheck_cardLimit]

/-- Telling the usage changes nothing. -/
theorem outcome_usage (server : Server MemoryStore) :
    outcome usage server = (.ok server.usageNow, server) := rfl

end CardLimits.Server
