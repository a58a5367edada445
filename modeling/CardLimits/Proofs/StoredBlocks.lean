import CardLimits.Proofs.Tables
import CardLimits.Store.BlockTable
import Mathlib.Data.List.Perm.Subperm
/-!
# Looking blocks up

A table of blocks is the same thing as a partial function from workspaces and ids
to blocks: `BlockTable.find?_eq_some_iff` reads it in both directions.  So it does not
matter on which shelf a block lies, and the cards that count shelf by shelf are those
that count among all blocks (`BlockTable.countedCards_eq`).  The last block of a list
that has a kind and an id (`lastOfKind?`) is what a table of the list's blocks would hold
under the id.
-/

namespace CardLimits

/-- A card is no board. -/
theorem Block.isBoard_of_isCard {block : Block} (isCard : block.isCard = true) :
    block.isBoard = false := by
  rw [Block.isBoard, of_decide_eq_true isCard]
  rfl

/-- A card is not of the kind of boards. -/
theorem Block.kind_ne_board_of_isCard {block : Block} (isCard : block.isCard = true) :
    block.kind ≠ .board :=
  of_decide_eq_false (isBoard_of_isCard isCard)

/-- The last block of a list that has a kind and an id. -/
def lastOfKind? (kind : BlockKind) (blocks : List Block) (id : String) : Option Block :=
  blocks.findRev? fun block => block.kind = kind && block.id = id

/-- The block that was found is one of the list, and it has the kind and the id. -/
theorem of_lastOfKind? {kind : BlockKind} {blocks : List Block} {id : String} {block : Block}
    (found : lastOfKind? kind blocks id = some block) :
    block ∈ blocks ∧ block.kind = kind ∧ block.id = id := by
  rw [lastOfKind?, List.findRev?_eq_find?_reverse] at found
  have member := List.mem_of_find?_eq_some found
  have fits := List.find?_some found
  exact ⟨List.mem_reverse.mp member, by simpa using fits⟩

/-- Nothing is found exactly if no block has the kind and the id. -/
theorem lastOfKind?_eq_none_iff {kind : BlockKind} {blocks : List Block} {id : String} :
    lastOfKind? kind blocks id = none ↔
      ∀ block ∈ blocks, block.kind = kind → block.id ≠ id := by
  simp [lastOfKind?]

/-- Something is found under the kind and the id of a block of the list. -/
theorem exists_lastOfKind? {blocks : List Block} {block : Block} (member : block ∈ blocks) :
    ∃ last, lastOfKind? block.kind blocks block.id = some last := by
  refine Option.ne_none_iff_exists'.mp fun absent => ?_
  exact lastOfKind?_eq_none_iff.mp absent block member rfl rfl

/-- In a list without blocks of a kind none of that kind is found. -/
theorem lastOfKind?_of_ne {kind : BlockKind} {blocks : List Block}
    (different : ∀ block ∈ blocks, block.kind ≠ kind) (id : String) :
    lastOfKind? kind blocks id = none :=
  lastOfKind?_eq_none_iff.mpr fun block member equal => absurd equal (different block member)

/-- A block of a kind is the last one with its id or has the id of that one. -/
theorem mem_idsOfKind (kind : BlockKind) {blocks : List Block} {id : String} :
    id ∈ (blocks.filter fun block => block.kind = kind).map Block.id ↔
      (lastOfKind? kind blocks id).isSome := by
  rw [Option.isSome_iff_ne_none, Ne, lastOfKind?_eq_none_iff]
  simp [and_assoc]

/-- Taking the blocks of the kind out of the list first makes no difference. -/
theorem findRev?_filter_kind (kind : BlockKind) (blocks : List Block) (id : String) :
    ((blocks.filter fun block => block.kind = kind).findRev? fun block => block.id = id) =
      lastOfKind? kind blocks id := by
  rw [lastOfKind?, List.findRev?_eq_find?_reverse, List.findRev?_eq_find?_reverse,
    ← List.filter_reverse, List.find?_filter]
  simp only [decide_eq_true_eq, Bool.decide_and]

/-- What stands further behind in a list comes first. -/
theorem lastOfKind?_append (kind : BlockKind) (blocks others : List Block) (id : String) :
    lastOfKind? kind (blocks ++ others) id =
      (lastOfKind? kind others id).or (lastOfKind? kind blocks id) := by
  simp only [lastOfKind?, List.findRev?_eq_find?_reverse, List.reverse_append, List.find?_append]

/-- The first block of a list is found only if nothing is found behind it. -/
theorem lastOfKind?_cons (kind : BlockKind) (block : Block) (rest : List Block) (id : String) :
    lastOfKind? kind (block :: rest) id =
      (lastOfKind? kind rest id).or
        (if block.kind = kind ∧ block.id = id then some block else none) := by
  rw [← List.singleton_append, lastOfKind?_append]
  congr 1
  by_cases fits : block.kind = kind ∧ block.id = id
  · simp [lastOfKind?, List.findRev?, fits]
  · simp [lastOfKind?, List.findRev?, fits]

/-- Blocks of another kind at the end of a list do not matter. -/
theorem lastOfKind?_append_of_ne {kind : BlockKind} {blocks others : List Block} {id : String}
    (different : ∀ block ∈ others, block.kind ≠ kind) :
    lastOfKind? kind (blocks.filter (fun block => block.kind = kind) ++ others) id =
      lastOfKind? kind blocks id := by
  rw [lastOfKind?_append, lastOfKind?_of_ne different, Option.none_or, ← findRev?_filter_kind,
    List.filter_filter]
  simp only [Bool.and_self]
  exact findRev?_filter_kind kind blocks id

/-- Whether two blocks have the same workspace and the same id. -/
def Block.SamePlace (left right : Block) : Prop :=
  left.workspaceId = right.workspaceId ∧ left.id = right.id

namespace BlockTable

/-- The block under an id on the shelf of a workspace is the one under both. -/
theorem find?_of_shelved {table : BlockTable} {workspaceId : String} {shelf : Table Block}
    (shelved : table.shelves.get? workspaceId = some shelf) (id : String) :
    table.find? workspaceId id = shelf.get? id := by
  rw [find?, Shelves.find?, shelved, Option.bind_some]

/-- A block on the shelf of a workspace names the workspace and the id it is filed under. -/
theorem place_of_shelved {table : BlockTable} {workspaceId id : String} {shelf : Table Block}
    {block : Block} (shelved : table.shelves.get? workspaceId = some shelf)
    (filed : shelf.get? id = some block) : block.workspaceId = workspaceId ∧ block.id = id :=
  place_of_find? ((find?_of_shelved shelved id).trans filed)

/-- A block is found under a workspace and an id exactly if it is in the table and
these are its own. -/
theorem find?_eq_some_iff {table : BlockTable} {workspaceId id : String} {block : Block} :
    table.find? workspaceId id = some block ↔
      block ∈ table.blocks ∧ block.workspaceId = workspaceId ∧ block.id = id := by
  constructor
  · intro found
    obtain ⟨shelf, shelved, filed⟩ := Option.bind_eq_some_iff.mp found
    have member : block ∈ table.blocks := List.mem_flatMap.mpr
      ⟨shelf, Table.mem_values_iff.mpr ⟨_, shelved⟩, Table.mem_values_iff.mpr ⟨_, filed⟩⟩
    exact ⟨member, place_of_find? found⟩
  · rintro ⟨member, rfl, rfl⟩
    obtain ⟨shelf, isShelf, onShelf⟩ := List.mem_flatMap.mp member
    obtain ⟨workspaceId, shelved⟩ := Table.mem_values_iff.mp isShelf
    obtain ⟨id, filed⟩ := Table.mem_values_iff.mp onShelf
    -- The keys are those that the block names.
    obtain ⟨rfl, rfl⟩ := place_of_shelved shelved filed
    exact (find?_of_shelved shelved _).trans filed

/-- Two blocks of a table that are in one place are one block. -/
theorem eq_of_samePlace (table : BlockTable) {left right : Block} (leftMember : left ∈ table.blocks)
    (rightMember : right ∈ table.blocks) (same : left.SamePlace right) : left = right :=
  Option.some.inj ((find?_eq_some_iff.mpr ⟨leftMember, same⟩).symm.trans
    (find?_eq_some_iff.mpr ⟨rightMember, rfl, rfl⟩))

/-- No two blocks of a table are in one place: on one shelf their ids differ, and on two
shelves their workspaces do. -/
theorem distinct (table : BlockTable) :
    table.blocks.Pairwise fun earlier later => ¬ earlier.SamePlace later := by
  refine List.pairwise_flatMap.mpr ⟨fun shelf isShelf => ?_, Table.pairwise_values ?_⟩
  · obtain ⟨workspaceId, shelved⟩ := Table.mem_values_iff.mp isShelf
    refine Table.pairwise_values ?_
    intro id other block otherBlock different filed otherFiled same
    exact different ((place_of_shelved shelved filed).2.symm.trans
      (same.2.trans (place_of_shelved shelved otherFiled).2))
  · intro workspaceId other shelf otherShelf different shelved otherShelved block onShelf
      otherBlock onOther same
    obtain ⟨id, filed⟩ := Table.mem_values_iff.mp onShelf
    obtain ⟨otherId, otherFiled⟩ := Table.mem_values_iff.mp onOther
    exact different ((place_of_shelved shelved filed).1.symm.trans
      (same.1.trans (place_of_shelved otherShelved otherFiled).1))

/-- Whether a block is a card that counts against the limit: it is not deleted, and
its root is not a template of its workspace.  A root that is not there is none. -/
def counts (table : BlockTable) (block : Block) : Bool :=
  block.isCard && block.deleteAt = 0 &&
    !(table.find? block.workspaceId block.rootId).any Block.isTemplate

/-- The cards that count are those among all blocks that do, each judged by the blocks of the
workspace that it names. -/
theorem countedCards_eq (table : BlockTable) :
    table.countedCards = table.blocks.filter table.counts := by
  rw [countedCards, blocks, List.filter_flatMap]
  refine List.flatMap_congr fun shelf isShelf => List.filter_congr fun block onShelf => ?_
  obtain ⟨workspaceId, shelved⟩ := Table.mem_values_iff.mp isShelf
  obtain ⟨id, filed⟩ := Table.mem_values_iff.mp onShelf
  rw [counts, Block.countsOn, (place_of_shelved shelved filed).1, find?_of_shelved shelved]

/-- A card that counts is a stored block that does. -/
theorem mem_countedCards_iff {table : BlockTable} {card : Block} :
    card ∈ table.countedCards ↔ card ∈ table.blocks ∧ table.counts card = true := by
  rw [countedCards_eq, List.mem_filter]

/-- No two blocks of a table have one workspace and id, so neither do two of those that pass
a test. -/
theorem nodup_places (table : BlockTable) (test : Block → Bool) :
    ((table.blocks.filter test).map fun block => (block.workspaceId, block.id)).Nodup := by
  refine List.pairwise_map.mpr ((table.distinct.filter test).imp fun apart same => apart ?_)
  exact Prod.mk.inj same

/-- If each block of a table that passes a test has its place among the blocks of a second
table that pass a second test, there are not more of them. -/
theorem countP_le_of_places {before after : BlockTable} {earlier later : Block → Bool}
    (found : ∀ block ∈ before.blocks, earlier block = true →
      ∃ successor ∈ after.blocks, later successor = true ∧ successor.SamePlace block) :
    before.blocks.countP earlier ≤ after.blocks.countP later := by
  let place (block : Block) : String × String := (block.workspaceId, block.id)
  have inside : (before.blocks.filter earlier).map place ⊆
      (after.blocks.filter later).map place := by
    intro taken member
    obtain ⟨block, filtered, rfl⟩ := List.mem_map.mp member
    obtain ⟨stored, passes⟩ := List.mem_filter.mp filtered
    obtain ⟨successor, storedLater, passesLater, same⟩ := found block stored passes
    exact List.mem_map.mpr
      ⟨successor, List.mem_filter.mpr ⟨storedLater, passesLater⟩, Prod.ext same.1 same.2⟩
  have fewer := (List.subperm_of_subset (before.nodup_places earlier) inside).length_le
  rwa [List.length_map, List.length_map, ← List.countP_eq_length_filter,
    ← List.countP_eq_length_filter] at fewer

/-- What is found for some ids, each block under its own id. -/
theorem id_of_mem_filterMap_find? {table : BlockTable} {workspaceId : String}
    {ids : List String} {block : Block}
    (member : block ∈ ids.filterMap (table.find? workspaceId)) :
    table.find? workspaceId block.id = some block ∧ block.id ∈ ids := by
  obtain ⟨id, asked, found⟩ := List.mem_filterMap.mp member
  obtain ⟨_, rfl⟩ := place_of_find? found
  exact ⟨found, asked⟩

end BlockTable

end CardLimits
