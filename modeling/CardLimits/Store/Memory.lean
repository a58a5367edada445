import CardLimits.Model.Fixture
import CardLimits.Store.Basic
import CardLimits.Store.BlockTable
/-!
# A store in memory

It keeps everything in one value, and besides a record of what it was asked:
which blocks were fetched, which limits the cutoff was computed for, and how often
the license was read.  Fetching blocks and sending messages can be made to fail.
-/

namespace CardLimits

/-- The state of a store in memory. -/
structure MemoryStore where
  license : Option License := none
  cutoff : Int64 := 0
  blocks : BlockTable := .empty
  teams : Table Team := .empty
  /-- The messages that were sent, the oldest first. -/
  sent : List Message := []
  /-- The ids of every fetch of blocks, the oldest first. -/
  fetches : List (List String) := []
  /-- The limits of every computation of the cutoff, the oldest first. -/
  cutoffUpdates : List Int32 := []
  licenseReads : Nat := 0
  /-- The text with which every fetch of blocks fails. -/
  fetchFailure : Option String := none
  /-- The text with which every sending of a message fails. -/
  sendFailure : Option String := none

namespace MemoryStore

/-- A store with the contents of a fixture; blocks go under their own workspace. -/
def ofSeed (seed : StoreSeed) : MemoryStore :=
  { license := seed.license
    cutoff := seed.cutoff
    blocks := BlockTable.empty.putAll seed.blocks
    teams := seed.teams }

/-- Puts blocks into a workspace, whatever workspace they name. -/
def insertBlocks (container : Container) (blocks : List Block) (store : MemoryStore) :
    MemoryStore :=
  { store with blocks := store.blocks.putAllUnder container.workspaceId blocks }

/-- Gives a workspace its team. -/
def insertTeam (workspaceId : String) (team : Team) (store : MemoryStore) : MemoryStore :=
  { store with teams := store.teams.insert workspaceId team }

/-- Reads the license and counts the reading. -/
def readLicense : Action MemoryStore (Option License) :=
  modifyGet fun store => (store.license, { store with licenseReads := store.licenseReads + 1 })

/-- Computes the cutoff for a limit, keeps it and records the limit. -/
def updateCutoff (limit : Int32) : Action MemoryStore Int64 :=
  modifyGet fun store =>
    let cutoff := store.blocks.cutoffFor limit
    (cutoff, { store with cutoff, cutoffUpdates := store.cutoffUpdates ++ [limit] })

/-- The number of cards that count. -/
def usedCards : Action MemoryStore Int64 := do
  return Int64.ofNat (← get).blocks.countedCards.length

/-- Fetches blocks by their ids and records the ids, also when fetching fails. -/
def blocksByIds (container : Container) (ids : List String) : Action MemoryStore (List Block) := do
  modify fun store => { store with fetches := store.fetches ++ [ids] }
  let store ← get
  match store.fetchFailure with
  | some text => throw (.internal text)
  | none => return ids.filterMap (store.blocks.find? container.workspaceId)

/-- Sends a message, unless sending fails. -/
def send (message : Message) : Action MemoryStore Unit := do
  match (← get).sendFailure with
  | some text => throw (.internal text)
  | none => modify fun store => { store with sent := store.sent ++ [message] }

instance : Store MemoryStore where
  license := readLicense
  cutoff := return (← get).cutoff
  updateCutoff := updateCutoff
  usedCards := usedCards
  blocksByIds := blocksByIds
  team workspaceId := return (← get).teams.get? workspaceId
  send := send

end MemoryStore

end CardLimits
