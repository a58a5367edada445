import CardLimits.Proofs.Agreement
/-!
# Blocks served in batches

A caller who has many blocks to serve may ask for all of them at once or in batches.  What
is at hand comes before what is stored, so a batch could change the answer: a board or a
card in it need not be fetched, and a parent in it may turn out to be a board.  As long as
the blocks are the stored ones, both are the same.  A block is then judged by the store
alone (`withholds_of_stored`, `cardOf?_of_stored`), whatever list it is in, and the batches
together come to what the whole list comes to (`served_batch_by_batch`).
-/

namespace CardLimits

namespace BlockTable

/-- Whether every block of a list is the one that is stored in a workspace under its id. -/
def Stores (table : BlockTable) (container : Container) (blocks : List Block) : Prop :=
  ∀ block ∈ blocks, table.find? container.workspaceId block.id = some block

/-- Whether a block is withheld, by the store alone. -/
def withholdsByStore (table : BlockTable) (container : Container) (cutoff : Int64)
    (block : Block) : Bool :=
  block.isOutside cutoff &&
    !(table.find? container.workspaceId block.rootId).any Block.isTemplate

/-- The card that a block belongs to, by the store alone. -/
def cardByStore? (table : BlockTable) (container : Container) (block : Block) : Option Block :=
  if block.isCard then some block
  else (block.parentCard? []).bind fun id =>
    (table.find? container.workspaceId id).filter Block.isCard

/-- Whether some block of a list belongs to a card that is withheld, by the store alone. -/
def holdsByStore (table : BlockTable) (container : Container) (cutoff : Int64)
    (blocks : List Block) : Bool :=
  blocks.any fun block =>
    (table.cardByStore? container block).any (table.withholdsByStore container cutoff)

/-- A part of a list of stored blocks is one as well. -/
theorem Stores.of_subset {table : BlockTable} {container : Container} {blocks part : List Block}
    (stored : table.Stores container blocks) (inside : part ⊆ blocks) :
    table.Stores container part :=
  fun block member => stored block (inside member)

end BlockTable

section Stored

variable {table : BlockTable} {container : Container} {blocks : List Block}
  (stored : table.Stores container blocks)

include stored

/-- What is found at hand is what is stored. -/
theorem find?_of_lastOfKind? {kind : BlockKind} {id : String} {block : Block}
    (atHand : lastOfKind? kind blocks id = some block) :
    table.find? container.workspaceId id = some block := by
  obtain ⟨member, -, rfl⟩ := of_lastOfKind? atHand
  exact stored block member

/-- A root is a template exactly if the stored block is one, unless something is stored under
the empty id. -/
theorem isTemplateRoot_of_stored (unnamed : table.find? container.workspaceId "" = none)
    (root : String) :
    table.isTemplateRoot container blocks root =
      (table.find? container.workspaceId root).any Block.isTemplate := by
  rw [BlockTable.isTemplateRoot]
  cases atHand : lastOfKind? .board blocks root with
  | some board =>
    rw [find?_of_lastOfKind? stored atHand]
    rfl
  | none =>
    by_cases empty : root = ""
    · simp [empty, unnamed]
    · simp [empty]

/-- The store alone says what is withheld. -/
theorem withholds_of_stored (unnamed : table.find? container.workspaceId "" = none)
    (cutoff : Int64) :
    table.withholds container blocks cutoff = table.withholdsByStore container cutoff := by
  funext block
  rw [BlockTable.withholds, isTemplateRoot_of_stored stored unnamed]
  rfl

/-- A parent at hand that is a board is stored as that board, so it is no stored card
either. -/
theorem bind_parentCard?_boardIds (block : Block) :
    ((block.parentCard? (boardIds blocks)).bind fun id =>
        (table.find? container.workspaceId id).filter Block.isCard) =
      (block.parentCard? []).bind fun id =>
        (table.find? container.workspaceId id).filter Block.isCard := by
  by_cases onBoard : block.parentId ∈ boardIds blocks
  · obtain ⟨board, member, named⟩ := List.mem_map.mp onBoard
    obtain ⟨atHand, isBoard⟩ := List.mem_filter.mp member
    have noCard : (table.find? container.workspaceId block.parentId).filter Block.isCard =
        none := by
      rw [← named, stored board atHand, Option.filter_some, if_neg]
      simp [Block.isCard, of_decide_eq_true isBoard]
    have noParent : block.parentCard? (boardIds blocks) = none := by
      simp [Block.parentCard?, onBoard]
    rw [noParent, Option.bind_none, Block.parentCard?]
    split
    · rfl
    · split
      · rfl
      · exact noCard.symm
  · have sameParent : block.parentCard? (boardIds blocks) = block.parentCard? [] := by
      simp [Block.parentCard?, onBoard]
    rw [sameParent]

/-- The store alone says which card a block of the list belongs to. -/
theorem cardOf?_of_stored {block : Block} (member : block ∈ blocks) :
    table.cardOf? container blocks block = table.cardByStore? container block := by
  cases isCard : block.isCard with
  | true =>
    have kind : block.kind = .card := of_decide_eq_true isCard
    obtain ⟨last, found⟩ := exists_lastOfKind? member
    have itself : last = block :=
      Option.some.inj ((find?_of_lastOfKind? stored found).symm.trans (stored block member))
    rw [kind, itself] at found
    simp [BlockTable.cardOf?, BlockTable.cardByStore?, kind, isCard, found]
  | false =>
    have cardAtHand (id : String) : (lastOfKind? .card blocks id).or
        ((table.find? container.workspaceId id).filter Block.isCard) =
          (table.find? container.workspaceId id).filter Block.isCard := by
      cases atHand : lastOfKind? .card blocks id with
      | none => exact Option.none_or
      | some card =>
        have ofKind : card.isCard = true := decide_eq_true (of_lastOfKind? atHand).2.1
        rw [find?_of_lastOfKind? stored atHand, Option.some_or, Option.filter_some,
          if_pos ofKind]
    rw [cardOf?_of_not_card isCard, BlockTable.cardByStore?, isCard, if_neg Bool.false_ne_true]
    simp only [cardAtHand]
    exact bind_parentCard?_boardIds stored block

/-- The store alone says whether some block belongs to a card that is withheld. -/
theorem holdsWithheld_of_stored (unnamed : table.find? container.workspaceId "" = none)
    (cutoff : Int64) :
    table.holdsWithheld container blocks cutoff =
      table.holdsByStore container cutoff blocks := by
  rw [BlockTable.holdsWithheld, BlockTable.holdsByStore, withholds_of_stored stored unnamed,
    Bool.eq_iff_iff, List.any_eq_true, List.any_eq_true]
  refine exists_congr fun block => and_congr_right fun member => ?_
  rw [cardOf?_of_stored stored member]

end Stored

/-- Stored blocks are served as the store alone says. -/
theorem Server.answer_applyLimits_of_stored {server : Server MemoryStore}
    (noFailure : server.store.fetchFailure = none) {container : Container} {blocks : List Block}
    (stored : server.store.blocks.Stores container blocks)
    (unnamed : server.store.blocks.find? container.workspaceId "" = none) :
    (outcome (applyLimits container blocks) server).1 = .ok (blocks.map fun block =>
      if server.limitApplies &&
          server.store.blocks.withholdsByStore container server.store.cutoff block then
        block.limitedView
      else block) := by
  cases applies : server.limitApplies with
  | true =>
    rw [answer_applyLimits noFailure applies]
    refine congrArg Except.ok (List.map_congr_left fun block _ => ?_)
    rw [BlockTable.view, withholds_of_stored stored unnamed, Bool.true_and]
  | false =>
    rw [outcome_applyLimits, applies]
    simp

/-! ## Main statement -/

/-- How a caller batches stored blocks makes no difference.  Serving two batches, from the
same state or one after the other, gives the two parts of what serving them together gives;
and the check on both together says yes exactly if it says yes on one of them.  No block of
the workspace may have the empty id, which is never looked up. -/
theorem served_batch_by_batch (server : Server MemoryStore)
    (noFailure : server.store.fetchFailure = none) (container : Container)
    (unnamed : server.store.blocks.find? container.workspaceId "" = none)
    (first second : List Block)
    (stored : ∀ block ∈ first ++ second,
      server.store.blocks.find? container.workspaceId block.id = some block) :
    (∃ servedFirst servedSecond,
      (outcome (Server.applyLimits container first) server).1 = .ok servedFirst ∧
      (outcome (Server.applyLimits container second) server).1 = .ok servedSecond ∧
      (outcome (Server.applyLimits container (first ++ second)) server).1 =
        .ok (servedFirst ++ servedSecond) ∧
      (outcome (do
          let served ← Server.applyLimits container first
          let others ← Server.applyLimits container second
          return served ++ others) server).1 = .ok (servedFirst ++ servedSecond)) ∧
    ∀ arrange arrangeFirst arrangeSecond : List Block → List Block,
      (∀ cards, (arrange cards).Perm cards) → (∀ cards, (arrangeFirst cards).Perm cards) →
      (∀ cards, (arrangeSecond cards).Perm cards) →
      ∃ holdsFirst holdsSecond,
        (outcome (Server.holdsLimitedArranged arrangeFirst container first) server).1 =
          .ok holdsFirst ∧
        (outcome (Server.holdsLimitedArranged arrangeSecond container second) server).1 =
          .ok holdsSecond ∧
        (outcome (Server.holdsLimitedArranged arrange container (first ++ second)) server).1 =
          .ok (holdsFirst || holdsSecond) := by
  have storedFirst : server.store.blocks.Stores container first :=
    BlockTable.Stores.of_subset stored (List.subset_append_left first second)
  have storedSecond : server.store.blocks.Stores container second :=
    BlockTable.Stores.of_subset stored (List.subset_append_right first second)
  constructor
  · have serveFirst := Server.answer_applyLimits_of_stored noFailure storedFirst unnamed
    have serveSecond := Server.answer_applyLimits_of_stored noFailure storedSecond unnamed
    have serveBoth := Server.answer_applyLimits_of_stored noFailure stored unnamed
    rw [List.map_append] at serveBoth
    refine ⟨_, _, serveFirst, serveSecond, serveBoth, ?_⟩
    -- The first call leaves nothing but traces of reading, which the second call ignores.
    obtain ⟨licenseReads, fetches, reached⟩ := OnlyReads.applyLimits container first server
    have firstCall : outcome (Server.applyLimits container first) server =
        (.ok _, server.withTraces licenseReads fetches) := Prod.ext serveFirst reached
    rw [outcome_bind_ok firstCall, answer_bind_pure, Server.answer_applyLimits_withTraces,
      serveSecond]
    rfl
  · intro arrange arrangeFirst arrangeSecond permutes permutesFirst permutesSecond
    refine ⟨_, _, Server.answer_holdsLimitedArranged permutesFirst noFailure container first,
      Server.answer_holdsLimitedArranged permutesSecond noFailure container second, ?_⟩
    rw [Server.answer_holdsLimitedArranged permutes noFailure,
      holdsWithheld_of_stored stored unnamed, holdsWithheld_of_stored storedFirst unnamed,
      holdsWithheld_of_stored storedSecond unnamed]
    exact congrArg Except.ok List.any_append

/-- The older card of the sample server. -/
def sampleCard : Block :=
  { (Block.fresh "stored" .card "board" "board").withUpdateAt 100 with workspaceId := "0" }

/-- A text that hangs off that card. -/
def sampleText : Block :=
  { Block.fresh "text" .text "stored" "board" with workspaceId := "0" }

/-- The sample server with the text in its store. -/
def textServer : Server MemoryStore :=
  { sampleServer with store := sampleServer.store.insertBlocks ⟨"0"⟩ [sampleText] }

/-- The text and its card are served as in two batches, where the card of the text has to be
fetched, and so they are checked. -/
theorem served_batch_by_batch_textServer :
    textServer.store.fetchFailure = none ∧ textServer.store.blocks.find? "0" "" = none ∧
      (∀ block ∈ [sampleText] ++ [sampleCard],
        textServer.store.blocks.find? "0" block.id = some block) ∧
      (∀ cards : List Block, cards.reverse.Perm cards) ∧
      (outcome (Server.applyLimits ⟨"0"⟩ [sampleText, sampleCard]) textServer).1 =
        .ok [sampleText, sampleCard.limitedView] ∧
      (outcome (Server.holdsLimitedArranged List.reverse ⟨"0"⟩ [sampleText, sampleCard])
        textServer).1 = .ok true := by
  have stored : ∀ block ∈ [sampleText] ++ [sampleCard],
      textServer.store.blocks.find? "0" block.id = some block := by
    intro block member
    simp only [List.singleton_append, List.mem_cons, List.not_mem_nil, or_false] at member
    rcases member with rfl | rfl
    · rfl
    · rfl
  obtain ⟨⟨servedFirst, servedSecond, serveFirst, serveSecond, serveBoth, -⟩, checks⟩ :=
    served_batch_by_batch textServer rfl ⟨"0"⟩ rfl [sampleText] [sampleCard] stored
  obtain ⟨holdsFirst, holdsSecond, checkFirst, -, checkBoth⟩ :=
    checks List.reverse List.reverse List.reverse List.reverse_perm List.reverse_perm
      List.reverse_perm
  have answers : textServer.store.fetchFailure = none := rfl
  have serves := Server.answer_applyLimits answers rfl ⟨"0"⟩
  have firstServed : servedFirst = [sampleText] :=
    Except.ok.inj (serveFirst.symm.trans (serves [sampleText]))
  have secondServed : servedSecond = [sampleCard.limitedView] :=
    Except.ok.inj (serveSecond.symm.trans (serves [sampleCard]))
  have firstChecked : holdsFirst = true :=
    Except.ok.inj (checkFirst.symm.trans
      (Server.answer_holdsLimitedArranged List.reverse_perm answers ⟨"0"⟩ [sampleText]))
  rw [firstServed, secondServed] at serveBoth
  rw [firstChecked, Bool.true_or] at checkBoth
  exact ⟨rfl, rfl, stored, List.reverse_perm, serveBoth, checkBoth⟩

end CardLimits
