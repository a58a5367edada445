import CardLimits.Model.Block
/-!
# Blocks under their workspace and id

Every workspace has a shelf, a table of blocks under their ids.  Who files a block says
under which workspace, and only blocks that name that workspace as their own may be
filed there (`Shelves.Filed.file`).  So in a table of blocks the keys agree with what
the blocks say themselves: a block is never found under another workspace or id than
its own, and under both of them it is the one that was put last.
-/

namespace CardLimits

/-- The shelves of workspaces, with blocks under their ids. -/
abbrev Shelves := Table (Table Block)

namespace Shelves

/-- The block under a workspace and an id. -/
def find? (shelves : Shelves) (workspaceId id : String) : Option Block :=
  (shelves.get? workspaceId).bind fun shelf => shelf.get? id

/-- Files a block under a workspace and its id, in place of the one that is there. -/
def file (shelves : Shelves) (workspaceId : String) (block : Block) : Shelves :=
  let shelf := (shelves.get? workspaceId).getD .empty
  shelves.insert workspaceId (shelf.insert block.id block)

/-- Whether every block is filed under the workspace and the id that it names. -/
def Filed (shelves : Shelves) : Prop :=
  ∀ ⦃workspaceId id : String⦄ ⦃block : Block⦄, shelves.find? workspaceId id = some block →
    block.workspaceId = workspaceId ∧ block.id = id

/-- The block that was filed last is the one that is found. -/
theorem find?_file (shelves : Shelves) (workspaceId : String) (block : Block)
    (otherWorkspace id : String) :
    (shelves.file workspaceId block).find? otherWorkspace id =
      if workspaceId = otherWorkspace ∧ block.id = id then some block
      else shelves.find? otherWorkspace id := by
  unfold find? file
  rw [Table.get?_insert]
  by_cases here : otherWorkspace = workspaceId
  · subst here
    rw [if_pos rfl, Option.bind_some, Table.get?_insert]
    by_cases same : id = block.id
    · rw [if_pos same, if_pos ⟨rfl, same.symm⟩]
    · rw [if_neg same, if_neg fun both => same both.2.symm]
      cases shelves.get? otherWorkspace <;> rfl
  · rw [if_neg here, if_neg fun both => here both.1.symm]

/-- Filing a block under its own workspace leaves every block where it belongs. -/
theorem Filed.file {shelves : Shelves} (filed : shelves.Filed) {workspaceId : String}
    {block : Block} (own : block.workspaceId = workspaceId) :
    (shelves.file workspaceId block).Filed := by
  intro otherWorkspace id other found
  rw [find?_file] at found
  split at found
  · rename_i place
    cases found
    exact ⟨own.trans place.1, place.2⟩
  · exact filed found

end Shelves

/-- Whether a block is a card that counts against the limit: it is not deleted, and
its root is not a template on its shelf.  A root that is not there is none. -/
def Block.countsOn (shelf : Table Block) (block : Block) : Bool :=
  block.isCard && block.deleteAt = 0 && !(shelf.get? block.rootId).any Block.isTemplate

/-- Blocks that are filed where they belong. -/
structure BlockTable where
  shelves : Shelves
  filed : shelves.Filed

namespace BlockTable

/-- The table without blocks. -/
def empty : BlockTable :=
  ⟨.empty, nofun⟩

instance : Inhabited BlockTable := ⟨empty⟩

/-- Puts a block under the workspace that it names. -/
def put (table : BlockTable) (block : Block) : BlockTable :=
  ⟨table.shelves.file block.workspaceId block, table.filed.file rfl⟩

/-- Puts blocks under the workspaces that they name, one after the other. -/
def putAll (table : BlockTable) (blocks : List Block) : BlockTable :=
  blocks.foldl put table

/-- Puts a block under a workspace and has it name that workspace. -/
def putUnder (workspaceId : String) (table : BlockTable) (block : Block) : BlockTable :=
  ⟨table.shelves.file workspaceId { block with workspaceId }, table.filed.file rfl⟩

/-- Puts blocks under a workspace, one after the other, whatever workspace they name. -/
def putAllUnder (table : BlockTable) (workspaceId : String) (blocks : List Block) : BlockTable :=
  blocks.foldl (putUnder workspaceId) table

/-- The block under a workspace and an id. -/
def find? (table : BlockTable) (workspaceId id : String) : Option Block :=
  table.shelves.find? workspaceId id

/-- All blocks, shelf by shelf. -/
def blocks (table : BlockTable) : List Block :=
  table.shelves.values.flatMap Table.values

/-- The cards that count against the limit, shelf by shelf. -/
def countedCards (table : BlockTable) : List Block :=
  table.shelves.values.flatMap fun shelf => shelf.values.filter (Block.countsOn shelf)

/-- The update times of the cards that count, the newest first. -/
def countedTimes (table : BlockTable) : List Int64 :=
  (table.countedCards.map Block.updateAt).mergeSort fun earlier later => later ≤ earlier

/-- The cutoff for a card limit: the update time of as many-th newest card as the
limit says, or zero without such a card or without a positive limit. -/
def cutoffFor (table : BlockTable) (limit : Int32) : Int64 :=
  if 0 < limit then (table.countedTimes[limit.toInt.toNat - 1]?).getD 0 else 0

/-- A block that was found has the workspace and the id that were asked for. -/
theorem place_of_find? {table : BlockTable} {workspaceId id : String} {block : Block}
    (found : table.find? workspaceId id = some block) :
    block.workspaceId = workspaceId ∧ block.id = id :=
  table.filed found

/-- The block that was put last is the one that is found. -/
theorem find?_put (table : BlockTable) (block : Block) (workspaceId id : String) :
    (table.put block).find? workspaceId id =
      if block.workspaceId = workspaceId ∧ block.id = id then some block
      else table.find? workspaceId id :=
  table.shelves.find?_file block.workspaceId block workspaceId id

/-- The block that was put under a workspace last is the one that is found, and it names the
workspace. -/
theorem find?_putUnder (table : BlockTable) (workspaceId : String) (block : Block)
    (otherWorkspace id : String) :
    (table.putUnder workspaceId block).find? otherWorkspace id =
      if workspaceId = otherWorkspace ∧ block.id = id then some { block with workspaceId }
      else table.find? otherWorkspace id :=
  table.shelves.find?_file workspaceId { block with workspaceId } otherWorkspace id

/-- Blocks that are put under a workspace are put there as blocks that name it. -/
theorem putAllUnder_eq (table : BlockTable) (workspaceId : String) (blocks : List Block) :
    table.putAllUnder workspaceId blocks =
      table.putAll (blocks.map fun block => { block with workspaceId }) := by
  rw [putAll, List.foldl_map]
  rfl

end BlockTable

end CardLimits
