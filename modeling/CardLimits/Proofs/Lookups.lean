import CardLimits.Proofs.Outcome
import CardLimits.Proofs.StoredBlocks
import CardLimits.Proofs.Tables
/-!
# What a server looks up in a store in memory

A server fetches what it needs but does not have at hand, all at once.  Here is
what `Server.templates` and `Server.cards` come to over a store in memory
(`outcome_templates`, `outcome_cards`), and what they hold afterwards under one id
(`get?_templatesFrom`, `get?_cardsFrom`).  Blocks at hand come before stored ones,
because an id at hand is never asked for.
-/

namespace CardLimits

/-- An id is missing if it was named, is not empty and is not known. -/
@[simp]
theorem mem_missingIds {isKnown : String → Bool} {ids : List String} {id : String} :
    id ∈ missingIds isKnown ids ↔ id ∈ ids ∧ id ≠ "" ∧ isKnown id = false := by
  simp [missingIds]

/-- Taking out what came before leaves nothing twice. -/
theorem nodup_eraseDups {α : Type} [BEq α] [LawfulBEq α] (items : List α) :
    items.eraseDups.Nodup := by
  match items with
  | [] => exact List.nodup_nil
  | first :: rest =>
    rw [List.eraseDups_cons, List.nodup_cons]
    refine ⟨?_, nodup_eraseDups (rest.filter fun item => !item == first)⟩
    simp
termination_by items.length
decreasing_by exact Nat.lt_succ_of_le (List.length_filter_le _ rest)

/-- No id is asked for twice. -/
theorem nodup_missingIds (isKnown : String → Bool) (ids : List String) :
    (missingIds isKnown ids).Nodup :=
  nodup_eraseDups _

namespace MemoryStore

/-- What a store answers when blocks are fetched; nobody asks it for no blocks. -/
def lookUp (store : MemoryStore) (container : Container) (ids : List String) :
    Except AppError (List Block) :=
  if ids.isEmpty then .ok []
  else
    match store.fetchFailure with
    | some text => .error (.internal text)
    | none => .ok (ids.filterMap (store.blocks.find? container.workspaceId))

/-- The store after blocks were fetched, which it records whether or not it fails. -/
def recordFetch (ids : List String) (store : MemoryStore) : MemoryStore :=
  if ids.isEmpty then store else { store with fetches := store.fetches ++ [ids] }

/-- Without a failure every id with a block is answered. -/
theorem lookUp_of_noFailure {store : MemoryStore} (noFailure : store.fetchFailure = none)
    (container : Container) (ids : List String) :
    store.lookUp container ids =
      .ok (ids.filterMap (store.blocks.find? container.workspaceId)) := by
  cases ids with
  | nil => rfl
  | cons id rest => simp [lookUp, noFailure]

/-- A fetch is answered exactly if nothing is asked for or fetches do not fail, and then
every id with a block is answered. -/
theorem lookUp_eq_ok_iff {store : MemoryStore} {container : Container} {ids : List String}
    {fetched : List Block} :
    store.lookUp container ids = .ok fetched ↔
      (ids = [] ∨ store.fetchFailure = none) ∧
        fetched = ids.filterMap (store.blocks.find? container.workspaceId) := by
  cases ids with
  | nil => simp [lookUp, eq_comm]
  | cons id rest =>
    cases failure : store.fetchFailure with
    | none => simp [lookUp, failure, eq_comm]
    | some text => simp [lookUp, failure]

/-- A fetch fails exactly if something is asked for and fetches fail, and then with their
text. -/
theorem lookUp_eq_error_iff {store : MemoryStore} {container : Container} {ids : List String}
    {error : AppError} :
    store.lookUp container ids = .error error ↔
      ids ≠ [] ∧ ∃ text, store.fetchFailure = some text ∧ error = .internal text := by
  cases ids with
  | nil => simp [lookUp]
  | cons id rest =>
    cases failure : store.fetchFailure with
    | none => simp [lookUp, failure]
    | some text => simp [lookUp, failure, eq_comm]

/-- What becomes of an answer is what becomes of the stored blocks. -/
theorem map_lookUp {β : Type} (store : MemoryStore) (container : Container) (ids : List String)
    (use : List Block → β) :
    (store.lookUp container ids).map use =
      (store.lookUp container ids).map fun _ =>
        use (ids.filterMap (store.blocks.find? container.workspaceId)) := by
  cases answer : store.lookUp container ids with
  | error error => rfl
  | ok fetched =>
    obtain ⟨-, rfl⟩ := lookUp_eq_ok_iff.mp answer
    rfl

/-- In whatever order the same ids are asked for, the fetch is answered or fails. -/
theorem map_lookUp_of_perm {β : Type} (store : MemoryStore) (container : Container)
    {ids others : List String} (same : ids.Perm others) (value : β) :
    (store.lookUp container ids).map (fun _ => value) =
      (store.lookUp container others).map fun _ => value := by
  simp only [lookUp, same.isEmpty_eq]
  cases others.isEmpty <;> cases store.fetchFailure <;> rfl

@[simp]
theorem recordFetch_blocks (ids : List String) (store : MemoryStore) :
    (store.recordFetch ids).blocks = store.blocks := by
  unfold recordFetch
  split <;> rfl

@[simp]
theorem recordFetch_cutoff (ids : List String) (store : MemoryStore) :
    (store.recordFetch ids).cutoff = store.cutoff := by
  unfold recordFetch
  split <;> rfl

@[simp]
theorem recordFetch_license (ids : List String) (store : MemoryStore) :
    (store.recordFetch ids).license = store.license := by
  unfold recordFetch
  split <;> rfl

@[simp]
theorem recordFetch_fetchFailure (ids : List String) (store : MemoryStore) :
    (store.recordFetch ids).fetchFailure = store.fetchFailure := by
  unfold recordFetch
  split <;> rfl

/-- What was recorded has no influence on later answers. -/
@[simp]
theorem lookUp_recordFetch (asked : List String) (store : MemoryStore) (container : Container)
    (ids : List String) :
    (store.recordFetch asked).lookUp container ids = store.lookUp container ids := by
  simp [lookUp]

end MemoryStore

/-- The templates among some blocks and others that were fetched. -/
def templatesFrom (blocks fetched : List Block) : Table Bool :=
  (ownTemplates blocks).insertAll (fetched.map fun board => (board.id, board.isTemplate))

/-- The cards among some blocks and others that were fetched. -/
def cardsFrom (blocks fetched : List Block) : Table Block :=
  (ownCards blocks).insertAll ((fetched.filter Block.isCard).map fun card => (card.id, card))

namespace Server

/-- The server after its store was asked for blocks. -/
def recordFetch (ids : List String) (server : Server MemoryStore) : Server MemoryStore :=
  { server with store := server.store.recordFetch ids }

@[simp]
theorem recordFetch_store (ids : List String) (server : Server MemoryStore) :
    (server.recordFetch ids).store = server.store.recordFetch ids := rfl

@[simp]
theorem recordFetch_cardLimit (ids : List String) (server : Server MemoryStore) :
    (server.recordFetch ids).cardLimit = server.cardLimit := rfl

/-- A fetch is answered by the store and recorded there. -/
theorem outcome_fetch (container : Container) (ids : List String) (server : Server MemoryStore) :
    outcome (fetch container ids) server =
      (server.store.lookUp container ids, server.recordFetch ids) := by
  cases ids with
  | nil => rfl
  | cons id rest =>
    simp only [fetch, List.isEmpty_cons, Bool.false_eq_true, if_false, outcome_onStore,
      MemoryStore.outcome_blocksByIds]
    cases failure : server.store.fetchFailure with
    | none => simp [MemoryStore.lookUp, recordFetch, MemoryStore.recordFetch, failure]
    | some text => simp [MemoryStore.lookUp, recordFetch, MemoryStore.recordFetch, failure]

/-- The templates come from one fetch, of the roots that are not at hand. -/
theorem outcome_templates (container : Container) (blocks : List Block)
    (server : Server MemoryStore) :
    outcome (templates container blocks) server =
      ((server.store.lookUp container (missingRoots blocks)).map (templatesFrom blocks),
        server.recordFetch (missingRoots blocks)) := by
  simp only [templates, outcome_bind, outcome_fetch]
  cases server.store.lookUp container (missingRoots blocks) <;> rfl

/-- The cards come from one fetch, of the parents that are not at hand. -/
theorem outcome_cards (container : Container) (blocks : List Block)
    (server : Server MemoryStore) :
    outcome (cards container blocks) server =
      ((server.store.lookUp container (missingCards blocks)).map (cardsFrom blocks),
        server.recordFetch (missingCards blocks)) := by
  simp only [cards, outcome_bind, outcome_fetch]
  cases server.store.lookUp container (missingCards blocks) <;> rfl

end Server

/-! ## What the tables hold -/

/-- Of the blocks that were fetched and pass a test, the last one with an id is the
stored one, if it was asked for and passes. -/
theorem findRev?_fetched (table : BlockTable) (workspaceId : String) (ids : List String)
    (passes : Block → Bool) (id : String) :
    (((ids.filterMap (table.find? workspaceId)).filter passes).findRev?
        fun block => block.id = id) =
      if id ∈ ids then (table.find? workspaceId id).filter passes else none := by
  rw [List.findRev?_eq_find?_reverse]
  cases last : (List.filter passes _).reverse.find? fun block => block.id = id with
  | some block =>
    obtain ⟨fetched, accepted⟩ :=
      List.mem_filter.mp (List.mem_reverse.mp (List.mem_of_find?_eq_some last))
    have named : block.id = id := by simpa using List.find?_some last
    obtain ⟨stored, asked⟩ := BlockTable.id_of_mem_filterMap_find? fetched
    rw [named] at stored asked
    rw [if_pos asked, stored, Option.filter_some_pos accepted]
  | none =>
    split
    · rename_i asked
      refine (Option.filter_eq_none_iff.mpr fun block stored accepted => ?_).symm
      have fetched : block ∈ ids.filterMap (table.find? workspaceId) :=
        List.mem_filterMap.mpr ⟨id, asked, stored⟩
      have member := List.mem_reverse.mpr (List.mem_filter.mpr ⟨fetched, accepted⟩)
      exact List.find?_eq_none.mp last block member
        (decide_eq_true (BlockTable.place_of_find? stored).2)
    · rfl

/-- What is under an id among the templates at hand: what the last board says. -/
theorem get?_ownTemplates (blocks : List Block) (id : String) :
    (ownTemplates blocks).get? id = (lastOfKind? .board blocks id).map Block.isTemplate := by
  rw [ownTemplates, Table.get?_ofList]
  exact congrArg (Option.map Block.isTemplate) (findRev?_filter_kind .board blocks id)

/-- What is under an id among the cards at hand: the last card. -/
theorem get?_ownCards (blocks : List Block) (id : String) :
    (ownCards blocks).get? id = lastOfKind? .card blocks id := by
  rw [ownCards, Table.get?_ofList, Option.map_id']
  exact findRev?_filter_kind .card blocks id

/-- A root is missing if some block names it, it is not empty, and no board at hand
has it as its id. -/
theorem mem_missingRoots {blocks : List Block} {id : String} :
    id ∈ missingRoots blocks ↔
      (∃ block ∈ blocks, block.isBoard = false ∧ block.rootId = id) ∧ id ≠ "" ∧
        lastOfKind? .board blocks id = none := by
  simp [missingRoots, Table.contains, get?_ownTemplates, and_assoc]

/-- No root is asked for twice. -/
theorem nodup_missingRoots (blocks : List Block) : (missingRoots blocks).Nodup :=
  nodup_missingIds _ _

/-- A card is missing if some content names it as its card, it is not empty, and no card
at hand has it as its id. -/
theorem mem_missingCards {blocks : List Block} {id : String} :
    id ∈ missingCards blocks ↔
      (∃ block ∈ blocks, block.isCard = false ∧
        block.parentCard? (boardIds blocks) = some id) ∧ id ≠ "" ∧
        lastOfKind? .card blocks id = none := by
  simp [missingCards, Table.contains, get?_ownCards, and_assoc]

/-- The templates hold what the last board at hand says about itself, and for a root
that was asked for what the stored block says. -/
theorem get?_templatesFrom (table : BlockTable) (workspaceId : String) (blocks : List Block)
    (id : String) :
    (templatesFrom blocks ((missingRoots blocks).filterMap (table.find? workspaceId))).get? id =
      ((lastOfKind? .board blocks id).or
        (if id ∈ missingRoots blocks then table.find? workspaceId id else none)).map
          Block.isTemplate := by
  have fetched := findRev?_fetched table workspaceId (missingRoots blocks) (fun _ => true) id
  have keepsAll (found : Option Block) : found.filter (fun _ => true) = found := by
    cases found <;> rfl
  rw [List.filter_eq_self.mpr fun _ _ => rfl, keepsAll] at fetched
  rw [templatesFrom, Table.get?_insertAll, fetched, get?_ownTemplates]
  split
  · rename_i missing
    rw [(mem_missingRoots.mp missing).2.2]
    simp
  · simp

/-- The cards hold the last card at hand, and for an id that was asked for the stored
block if it is a card. -/
theorem get?_cardsFrom (table : BlockTable) (workspaceId : String) (blocks : List Block)
    (id : String) :
    (cardsFrom blocks ((missingCards blocks).filterMap (table.find? workspaceId))).get? id =
      (lastOfKind? .card blocks id).or
        (if id ∈ missingCards blocks then (table.find? workspaceId id).filter Block.isCard
          else none) := by
  rw [cardsFrom, Table.get?_insertAll, findRev?_fetched, get?_ownCards]
  split
  · rename_i missing
    rw [(mem_missingCards.mp missing).2.2]
    simp
  · simp

end CardLimits
