import CardLimits.Proofs.Agreement
/-!
# Deleted cards and the check

A deleted block stays in the store with the time of its deletion.  The cards that count
leave it out, but a fetch finds it, and nothing behind the fetch looks at the mark.  So the
check comes to the same answer whatever is deleted (`holdsWithheld_withDeletion`), and
content that hangs off an old card is limited content even after the card was deleted
(`holdsLimited_ignores_deletion`).
-/

namespace CardLimits

namespace BlockTable

/-- Shelves with other times of deletion have the same blocks otherwise. -/
theorem find?_map_deleteAt (deletedAt : Block → Int64) (shelves : Shelves)
    (workspaceId id : String) :
    Shelves.find? (shelves.map (Table.map fun block =>
        { block with deleteAt := deletedAt block })) workspaceId id =
      (shelves.find? workspaceId id).map fun block =>
        { block with deleteAt := deletedAt block } := by
  rw [Shelves.find?, Shelves.find?, Table.get?_map]
  cases shelves.get? workspaceId with
  | none => rfl
  | some shelf => exact shelf.get?_map _ id

/-- The table with other times of deletion, zero for a block that is not deleted. -/
def withDeletion (deletedAt : Block → Int64) (table : BlockTable) : BlockTable where
  shelves := table.shelves.map (Table.map fun block => { block with deleteAt := deletedAt block })
  filed workspaceId id block found := by
    rw [find?_map_deleteAt] at found
    obtain ⟨stored, present, rfl⟩ := Option.map_eq_some_iff.mp found
    have place := table.filed present
    exact place

/-- A block is found whether or not it is deleted. -/
theorem find?_withDeletion (deletedAt : Block → Int64) (table : BlockTable)
    (workspaceId id : String) :
    (table.withDeletion deletedAt).find? workspaceId id =
      (table.find? workspaceId id).map fun block => { block with deleteAt := deletedAt block } :=
  find?_map_deleteAt deletedAt table.shelves workspaceId id

end BlockTable

/-- The server with other times of deletion in its store. -/
def Server.withDeletion (deletedAt : Block → Int64) (server : Server MemoryStore) :
    Server MemoryStore :=
  { server with store :=
    { server.store with blocks := server.store.blocks.withDeletion deletedAt } }

variable {container : Container} {blocks : List Block}

/-- What is withheld does not depend on what is deleted from the store, as a deleted board is
a template as before. -/
theorem withholds_withDeletion (deletedAt : Block → Int64) (table : BlockTable)
    (cutoff : Int64) :
    (table.withDeletion deletedAt).withholds container blocks cutoff =
      table.withholds container blocks cutoff := by
  refine congrFun (withholds_of_same_templates (fun id => ?_) blocks) cutoff
  rw [BlockTable.find?_withDeletion, Option.any_map]
  rfl

/-- Whether the card of a block is withheld does not depend on what is deleted from the
store. -/
theorem any_cardOf?_withDeletion (deletedAt : Block → Int64) (table : BlockTable)
    (cutoff : Int64) (block : Block) :
    ((table.withDeletion deletedAt).cardOf? container blocks block).any
        (table.withholds container blocks cutoff) =
      (table.cardOf? container blocks block).any (table.withholds container blocks cutoff) := by
  cases isCard : block.isCard with
  | true =>
    -- A card of the list belongs to the list alone.
    simp [BlockTable.cardOf?, of_decide_eq_true isCard]
  | false =>
    rw [cardOf?_of_not_card isCard, cardOf?_of_not_card isCard]
    cases block.parentCard? (boardIds blocks) with
    | none => rfl
    | some id =>
      rw [Option.bind_some, Option.bind_some, BlockTable.find?_withDeletion]
      cases lastOfKind? .card blocks id with
      | some card => rfl
      | none =>
        rw [Option.none_or, Option.none_or, Option.filter_map, Option.any_map]
        rfl

/-- The check on a list does not depend on what is deleted from the store. -/
theorem holdsWithheld_withDeletion (deletedAt : Block → Int64) (table : BlockTable)
    (cutoff : Int64) :
    (table.withDeletion deletedAt).holdsWithheld container blocks cutoff =
      table.holdsWithheld container blocks cutoff := by
  rw [BlockTable.holdsWithheld, BlockTable.holdsWithheld, withholds_withDeletion]
  simp only [any_cardOf?_withDeletion]

/-- In a list without boards and cards a block belongs to the stored card that its parent is,
unless it is a view, or its parent is its root. -/
theorem cardOf?_eq_some_iff_of_content {table : BlockTable}
    (content : ∀ block ∈ blocks, block.isBoard = false ∧ block.isCard = false) {block : Block}
    (member : block ∈ blocks) {card : Block} :
    table.cardOf? container blocks block = some card ↔
      block.kind ≠ .view ∧ block.parentId ≠ "" ∧ block.parentId ≠ block.rootId ∧
      table.find? container.workspaceId block.parentId = some card ∧ card.isCard = true := by
  obtain ⟨notBoard, notCard⟩ := content block member
  have noBoards : ¬ ∃ board ∈ blocks, board.isBoard = true ∧ board.id = block.parentId := by
    rintro ⟨board, boardMember, isBoard, -⟩
    rw [(content board boardMember).1] at isBoard
    cases isBoard
  have noCards : ∀ other ∈ blocks, other.kind ≠ .card := fun other otherMember =>
    of_decide_eq_false (content other otherMember).2
  by_cases view : block.kind = .view
  · simp [BlockTable.cardOf?, view]
  · rw [cardOf?_content table container blocks notCard notBoard view, lastOfKind?_of_ne noCards,
      Option.none_or, Option.ite_none_left_eq_some, Option.filter_eq_some_iff]
    simp only [noBoards, or_false, not_or, ne_eq, view, not_false_eq_true, true_and, and_assoc]

/-! ## Main statement -/

/-- Deleting cards makes no difference to the check.  Its answer over a store is its answer
over the same store with any other times of deletion.  On a list of content alone it says
yes exactly if there is a cutoff and some block that is no view hangs off a stored card,
deleted or not, that is as old as the cutoff and names no template of the store as its root;
so content whose parents were never stored is not limited, and content of deleted cards is
as before. -/
theorem holdsLimited_ignores_deletion (arrange : List Block → List Block)
    (permutes : ∀ cards, (arrange cards).Perm cards) (server : Server MemoryStore)
    (noFailure : server.store.fetchFailure = none) (container : Container)
    (blocks : List Block) :
    ∃ holds,
      (outcome (Server.holdsLimitedArranged arrange container blocks) server).1 = .ok holds ∧
      (∀ deletedAt : Block → Int64,
        (outcome (Server.holdsLimitedArranged arrange container blocks)
          (server.withDeletion deletedAt)).1 = .ok holds) ∧
      ((∀ block ∈ blocks, block.isBoard = false ∧ block.isCard = false) →
        (holds = true ↔ 0 < server.store.cutoff ∧ ∃ block ∈ blocks, ∃ card,
          (block.kind ≠ .view ∧ block.parentId ≠ "" ∧ block.parentId ≠ block.rootId ∧
            server.store.blocks.find? container.workspaceId block.parentId = some card ∧
            card.isCard = true) ∧
          card.updateAt ≤ server.store.cutoff ∧
          ¬ (card.rootId ≠ "" ∧ (server.store.blocks.find? container.workspaceId
            card.rootId).any Block.isTemplate = true))) := by
  refine ⟨_, Server.answer_holdsLimitedArranged permutes noFailure container blocks, ?_, ?_⟩
  · intro deletedAt
    have stillNoFailure : (server.withDeletion deletedAt).store.fetchFailure = none := noFailure
    rw [Server.answer_holdsLimitedArranged permutes stillNoFailure]
    exact congrArg Except.ok (holdsWithheld_withDeletion deletedAt _ _)
  · intro content
    have noBoards : ∀ block ∈ blocks, block.kind ≠ .board := fun block member =>
      of_decide_eq_false (content block member).1
    have judged (root : String) :
        server.store.blocks.isTemplateRoot container blocks root = false ↔
          ¬ (root ≠ "" ∧ (server.store.blocks.find? container.workspaceId root).any
            Block.isTemplate = true) := by
      rw [BlockTable.isTemplateRoot, lastOfKind?_of_ne noBoards]
      simp
    rw [holdsWithheld_iff]
    refine and_congr_right fun _ => exists_congr fun block => and_congr_right fun member => ?_
    refine exists_congr fun card => ?_
    rw [cardOf?_eq_some_iff_of_content content member, judged]

/-- The sample server finds that a text hangs off an old card, and still does when everything
in its store is deleted. -/
theorem holdsLimited_ignores_deletion_sampleServer :
    (∀ cards : List Block, cards.reverse.Perm cards) ∧
      sampleServer.store.fetchFailure = none ∧
      (∀ deletedAt, (outcome (Server.holdsLimitedArranged List.reverse ⟨"0"⟩
        [Block.fresh "text" .text "stored" "board"])
          (sampleServer.withDeletion deletedAt)).1 = .ok true) := by
  obtain ⟨holds, -, same, verdict⟩ := holdsLimited_ignores_deletion List.reverse
    List.reverse_perm sampleServer rfl ⟨"0"⟩ [Block.fresh "text" .text "stored" "board"]
  have content : ∀ block ∈ [Block.fresh "text" .text "stored" "board"],
      block.isBoard = false ∧ block.isCard = false := by
    simp [Block.fresh, Block.isBoard, Block.isCard]
  have old : (100 : Int64) ≤ sampleServer.store.cutoff := by decide
  have yes : holds = true := (verdict content).mpr
    ⟨by decide, _, List.mem_singleton_self _, _,
      ⟨by decide, by decide, by decide, rfl, rfl⟩, old,
      fun template => absurd template.2 (by decide)⟩
  exact ⟨List.reverse_perm, rfl, yes ▸ same⟩

/-- The sample server after its cards were deleted. -/
def deletedServer : Server MemoryStore :=
  sampleServer.withDeletion fun block => if block.isCard then 120 else 0

/-- A text whose only parent is a deleted card is limited content, and one whose parent was
never stored is not. -/
theorem content_of_deleted_card_limited :
    deletedServer.store.fetchFailure = none ∧
      (∃ card, deletedServer.store.blocks.find? "0" "stored" = some card ∧
        card.isCard = true ∧ card.deleteAt ≠ 0) ∧
      deletedServer.store.blocks.find? "0" "gone" = none ∧
      (outcome (Server.holdsLimited ⟨"0"⟩ [Block.fresh "text" .text "stored" "board"])
        deletedServer).1 = .ok true ∧
      (outcome (Server.holdsLimited ⟨"0"⟩ [Block.fresh "text" .text "gone" "board"])
        deletedServer).1 = .ok false := by
  have noFailure : deletedServer.store.fetchFailure = none := rfl
  have checks := Server.answer_holdsLimitedArranged (fun cards => .refl cards) noFailure ⟨"0"⟩
  exact ⟨noFailure, ⟨_, rfl, rfl, by decide⟩, rfl, checks _, checks _⟩

end CardLimits
