import CardLimits.Proofs.Limits
/-!
# Card limits in force

A card limit is in force once the server withholds by the cutoff that the store computed
for it.  There are three ways to get there (`Server.Adopts`): other limits are pushed, the
card limit is overwritten and the cutoff refreshed, or the store itself is asked for the
cutoff.  They differ in what they record, and agree in everything that serving depends on
(`Server.Adopts.inForce`).
-/

namespace CardLimits.Server

/-- How a server gets the cutoff for a card limit. -/
inductive Adopts (limit : Int32) (server : Server MemoryStore) : Server MemoryStore → Prop
  /-- Limits with another card limit than before are pushed. -/
  | push {limits : Option ProductLimits} {after : Server MemoryStore}
      (named : (limits.getD {}).cardLimit = limit) (changed : limit ≠ server.cardLimit)
      (returned : outcome (setLimits limits) server = (.ok (), after)) : Adopts limit server after
  /-- The card limit is overwritten, and the cutoff is refreshed. -/
  | refresh {after : Server MemoryStore}
      (returned : outcome (do setCardLimit limit; refreshCutoff) server = (.ok (), after)) :
      Adopts limit server after
  /-- The store is asked for the cutoff, whatever the card limit of the server is. -/
  | request {current : Int32} {cutoff : Int64} {after : Server MemoryStore}
      (limited : current ≠ 0)
      (returned : outcome (do setCardLimit current; onStore (Store.updateCutoff limit)) server =
        (.ok cutoff, after)) : Adopts limit server after

/-- What serving depends on once a card limit is in force: the blocks are those from before,
the cutoff is the one for the limit and these blocks, and a limit applies. -/
structure InForce (limit : Int32) (before after : Server MemoryStore) : Prop where
  blocks : after.store.blocks = before.store.blocks
  cutoff : after.store.cutoff = before.store.blocks.cutoffFor limit
  fetchFailure : after.store.fetchFailure = before.store.fetchFailure
  applies : after.limitApplies = true

variable {limit : Int32} {server after : Server MemoryStore}

/-- The cutoff in force is the one for the blocks that are stored. -/
theorem InForce.cutoff_of_stored (inForce : InForce limit server after) :
    after.store.cutoff = after.store.blocks.cutoffFor limit := by
  rw [inForce.cutoff, inForce.blocks]

/-- In the cloud a push of another card limit puts it in force, unless it is zero. -/
theorem inForce_pushed (cloud : server.store.license.any License.isCloud = true)
    (limited : limit ≠ 0) {limits : Option ProductLimits}
    (named : (limits.getD {}).cardLimit = limit) (changed : limit ≠ server.cardLimit) :
    InForce limit server (server.pushed limits) where
  blocks := server.pushed_blocks limits
  cutoff := by rw [pushed_cutoff, named, if_neg (Ne.symm changed)]
  fetchFailure := server.pushed_fetchFailure limits
  applies := by
    rw [limitApplies_iff, pushed_cardLimit, named, pushed_license]
    exact ⟨limited, cloud⟩

/-- In the cloud every way to get the cutoff for a card limit puts the limit in force, unless
it is zero. -/
theorem Adopts.inForce (adopted : server.Adopts limit after)
    (cloud : server.store.license.any License.isCloud = true) (limited : limit ≠ 0) :
    InForce limit server after := by
  cases adopted with
  | @push limits _ named changed returned =>
    rw [outcome_setLimits] at returned
    cases returned
    exact inForce_pushed cloud limited named changed
  | refresh returned =>
    let overwritten : Server MemoryStore := { server with cardLimit := limit }
    have applies : overwritten.limitApplies = true := limitApplies_iff.mpr ⟨limited, cloud⟩
    have set : outcome (setCardLimit limit) server = (.ok (), overwritten) := rfl
    rw [outcome_bind_ok set, outcome_refreshCutoff, refreshed, if_pos applies] at returned
    cases returned
    exact {
      blocks := overwritten.afterLimitCheck_blocks
      cutoff := by simp [recomputed, overwritten]
      fetchFailure := overwritten.afterLimitCheck_fetchFailure
      applies := by simpa [limitApplies, recomputed, overwritten] using applies }
  | @request current _ _ otherLimit returned =>
    cases returned
    exact {
      blocks := rfl
      cutoff := rfl
      fetchFailure := rfl
      applies := limitApplies_iff.mpr ⟨otherLimit, cloud⟩ }

end CardLimits.Server
