import CardLimits.Directory
import CardLimits.Store.Basic
/-!
# Servers

A server has a store, perhaps a host to ask for users, and the limits that were
last pushed to it.  It is limited when it runs in the cloud and has a card limit;
only then does it withhold anything.

A new push keeps the limits first and has the store compute a new cutoff after
that, and only if the card limit changed.
-/

namespace CardLimits

/-- A server over a store. -/
structure Server (σ : Type) where
  store : σ
  /-- The users of the host; none without access to a host. -/
  directory : Option Directory := none
  /-- Zero for no limit. -/
  cardLimit : Int32 := 0
  viewLimit : Int32 := 0
  /-- The number of administrators that are asked for and written to at once. -/
  pageSize : UInt64 := UserQuery.standardPageSize

namespace Server

variable {σ : Type}

/-- Runs an action on the store of a server. -/
def onStore {α : Type} (action : Action σ α) : Action (Server σ) α := fun server =>
  match action server.store with
  | .ok value store => .ok value { server with store }
  | .error error store => .error error { server with store }

/-- Runs an action on the users of the host. -/
def onDirectory {α : Type} (action : Action Directory α) : Action (Server σ) α := fun server =>
  match server.directory with
  | none => .error .noHostApi server
  | some directory =>
    match action directory with
    | .ok value directory => .ok value { server with directory := some directory }
    | .error error directory => .error error { server with directory := some directory }

/-- Overwrites the card limit; the cutoff stays as it is. -/
def setCardLimit (limit : Int32) : Action (Server σ) Unit :=
  modify fun server => { server with cardLimit := limit }

/-- Overwrites the view limit. -/
def setViewLimit (limit : Int32) : Action (Server σ) Unit :=
  modify fun server => { server with viewLimit := limit }

/-- Overwrites the card limit and says whether it changed. -/
def changeCardLimit (limit : Int32) : Action (Server σ) Bool :=
  modifyGet fun server => (server.cardLimit ≠ limit, { server with cardLimit := limit })

variable [Store σ]

/-- Whether the host has a license for the cloud. -/
def isCloud : Action (Server σ) Bool := do
  let license ← onStore Store.license
  return license.any License.isCloud

/-- Whether a card limit applies.  The license is read only if there is a limit. -/
def isLimited : Action (Server σ) Bool := do
  if (← get).cardLimit = 0 then return false
  isCloud

/-- Has the store compute the cutoff for a limit. -/
def updateCutoff (limit : Int32) : Action (Server σ) Unit := do
  let _ ← onStore (Store.updateCutoff limit)

/-- Takes over pushed limits; without any, both limits are removed. -/
def setLimits (limits : Option ProductLimits) : Action (Server σ) Unit := do
  let limits := limits.getD {}
  setViewLimit limits.viewLimit
  let changed ← changeCardLimit limits.cardLimit
  if changed then updateCutoff limits.cardLimit

/-- Has the store compute the cutoff anew, if the server is limited. -/
def refreshCutoff : Action (Server σ) Unit := do
  if ← isLimited then updateCutoff (← get).cardLimit

/-- The limits and what is used of them. -/
def usage : Action (Server σ) Usage := do
  let usedCards ← onStore Store.usedCards
  let cutoff ← onStore Store.cutoff
  let server ← get
  return { cards := server.cardLimit, usedCards, cutoff, views := server.viewLimit }

end Server

end CardLimits
