import CardLimits.Server.Serving
import CardLimits.Server.Start
import CardLimits.Server.Upgrade
import CardLimits.Store.ClosedDatabase
/-!
# Sessions

A session is a list of operations on one server.  A request works over every store:
it calls the server, or the store behind it.  The other operations change a store in
memory from outside.  An operation that fails leaves the state that it had reached,
and the session goes on.
-/

namespace CardLimits

open Json

/-- A call of a server or of its store. -/
inductive Request where
  | isCloud
  | isLimited
  | setCardLimit (limit : Int32)
  | setLimits (limits : Option ProductLimits)
  | refreshCutoff
  | usage
  | templates (container : Container) (blocks : List Block)
  | applyLimits (container : Container) (blocks : List Block)
  | holdsLimited (container : Container) (blocks : List Block)
  | requestUpgrade (workspaceId : String)
  | askUsers (query : UserQuery)
  | license
  | cutoff
  | usedCards
  | updateCutoff (limit : Int32)
  | blocksByIds (container : Container) (ids : List String)
  | team (workspaceId : String)
  | send (message : Message)

/-- Anything that happens in a session over a store in memory. -/
inductive Operation where
  | request (request : Request)
  | setLicense (license : Option License)
  | setCutoff (cutoff : Int64)
  | insertBlocks (container : Container) (blocks : List Block)
  | insertTeam (workspaceId : String) (team : Team)
  | failFetches (text : String)
  | failSending (text : String)

/-- What an operation returns. -/
inductive Answer where
  | done
  | flag (flag : Bool)
  | number (value : Int64)
  | usage (usage : Usage)
  | templates (templates : Table Bool)
  | blocks (blocks : List Block)
  | users (users : List User)
  | license (license : Option License)
  | team (team : Option Team)

/-- The JSON form of an answer; nothing is returned as `null`. -/
def Answer.json : Answer → Json
  | done => .null
  | flag holds => .bool holds
  | number value => Codec.int64.write value
  | usage current => Usage.codec.write current
  | templates known => (Codec.table .boolean).write known
  | blocks served => (Codec.list Block.codec).write served
  | users found => (Codec.list User.codec).write found
  | license found => (Codec.optional License.codec).write found
  | team found => (Codec.optional Team.codec).write found

/-- Performs a request. -/
def Request.perform {σ : Type} [Store σ] : Request → Action (Server σ) Answer
  | isCloud => return .flag (← Server.isCloud)
  | isLimited => return .flag (← Server.isLimited)
  | setCardLimit limit => do
    Server.setCardLimit limit
    return .done
  | setLimits limits => do
    Server.setLimits limits
    return .done
  | refreshCutoff => do
    Server.refreshCutoff
    return .done
  | usage => return .usage (← Server.usage)
  | templates container blocks => return .templates (← Server.templates container blocks)
  | applyLimits container blocks => return .blocks (← Server.applyLimits container blocks)
  | holdsLimited container blocks => return .flag (← Server.holdsLimited container blocks)
  | requestUpgrade workspaceId => do
    Server.requestUpgrade workspaceId
    return .done
  | askUsers query => return .users (← Server.onDirectory (Directory.ask query))
  | license => return .license (← Server.onStore Store.license)
  | cutoff => return .number (← Server.onStore Store.cutoff)
  | usedCards => return .number (← Server.onStore Store.usedCards)
  | updateCutoff limit => return .number (← Server.onStore (Store.updateCutoff limit))
  | blocksByIds container ids => return .blocks (← Server.onStore (Store.blocksByIds container ids))
  | team workspaceId => return .team (← Server.onStore (Store.team workspaceId))
  | send message => do
    Server.onStore (Store.send message)
    return .done

/-- Changes the store of a server from outside. -/
def changeStore (change : MemoryStore → MemoryStore) : Action (Server MemoryStore) Answer := do
  modify fun server => { server with store := change server.store }
  return .done

/-- Performs an operation. -/
def Operation.perform : Operation → Action (Server MemoryStore) Answer
  | request asked => asked.perform
  | setLicense license => changeStore fun store => { store with license }
  | setCutoff cutoff => changeStore fun store => { store with cutoff }
  | insertBlocks container blocks => changeStore (MemoryStore.insertBlocks container blocks)
  | insertTeam workspaceId team => changeStore (MemoryStore.insertTeam workspaceId team)
  | failFetches text => changeStore fun store => { store with fetchFailure := some text }
  | failSending text => changeStore fun store => { store with sendFailure := some text }

/-- What an action returns or fails with, and the state after it. -/
def outcome {σ α : Type} (action : Action σ α) (state : σ) : Except AppError α × σ :=
  match action.run state with
  | .ok value state => (.ok value, state)
  | .error error state => (.error error, state)

/-- Performs operations one after the other, whether or not they fail.  Returns what
each came to, and the state at the end. -/
def performAll :
    List Operation → Server MemoryStore → List (Except AppError Answer) × Server MemoryStore
  | [], server => ([], server)
  | operation :: rest, server =>
    let (answer, server) := outcome operation.perform server
    let (answers, server) := performAll rest server
    (answer :: answers, server)

end CardLimits
