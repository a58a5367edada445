import CardLimits.Proofs.Serving
/-!
# The check and the served blocks

Whether a list holds limited content is asked apart from serving it.  The check judges
the cards that the blocks belong to (`exists_cardOf?_iff`), serving judges the cards of
the list.  With the stored cards that its content hangs off put behind the list, both
judge the same cards, by the same boards, and come to the same answer
(`holdsLimited_eq_serving_withholds`).
-/

namespace CardLimits

namespace BlockTable

/-- Whether serving a list replaces some block by its limited view. -/
def withholdsSome (table : BlockTable) (container : Container) (blocks : List Block)
    (cutoff : Int64) : Bool :=
  blocks.any (table.withholds container blocks cutoff)

/-- The stored cards of a workspace that content of a list hangs off and whose ids no card
of the list has. -/
def storedParents (table : BlockTable) (container : Container) (blocks : List Block) :
    List Block :=
  table.blocks.filter fun card =>
    card.isCard && card.workspaceId = container.workspaceId &&
      blocks.any (fun block => !block.isCard &&
        block.parentCard? (boardIds blocks) = some card.id) &&
      blocks.all fun block => !(block.isCard && block.id = card.id)

end BlockTable

/-- The cards of a list can be told apart by their ids. -/
def CardsDistinct (blocks : List Block) : Prop :=
  ∀ card ∈ blocks, ∀ other ∈ blocks, card.isCard = true → other.isCard = true →
    card.id = other.id → card = other

variable {table : BlockTable} {container : Container} {blocks : List Block}

/-! ## The cards that are judged -/

/-- If the cards of a list can be told apart, the last one with an id is the only one. -/
theorem lastOfKind?_card_eq_some_iff (distinct : CardsDistinct blocks) {id : String}
    {card : Block} :
    lastOfKind? .card blocks id = some card ↔
      card ∈ blocks ∧ card.isCard = true ∧ card.id = id := by
  constructor
  · intro found
    obtain ⟨member, ofKind, named⟩ := of_lastOfKind? found
    exact ⟨member, decide_eq_true ofKind, named⟩
  · rintro ⟨member, isCard, rfl⟩
    have kind : card.kind = .card := of_decide_eq_true isCard
    obtain ⟨last, found⟩ := exists_lastOfKind? member
    rw [kind] at found
    obtain ⟨lastMember, lastKind, sameId⟩ := of_lastOfKind? found
    rw [found, distinct last lastMember card member (decide_eq_true lastKind) isCard sameId]

/-- A block that is no card belongs to the card that its parent is, of the list if there is
one, and else of the store. -/
theorem cardOf?_of_not_card {block : Block} (notCard : block.isCard = false) :
    table.cardOf? container blocks block =
      (block.parentCard? (boardIds blocks)).bind fun id =>
        (lastOfKind? .card blocks id).or
          ((table.find? container.workspaceId id).filter Block.isCard) := by
  by_cases aside : block.isBoard = true ∨ block.kind = .view
  · have noParent : block.parentCard? (boardIds blocks) = none := by
      simp [Block.parentCard?, aside]
    rw [noParent, Option.bind_none]
    rcases aside with board | view
    · simp [BlockTable.cardOf?, of_decide_eq_true board]
    · simp [BlockTable.cardOf?, view]
  · obtain ⟨notBoard, notView⟩ := not_or.mp aside
    have notBoard : block.isBoard = false := Bool.eq_false_iff.mpr notBoard
    rw [cardOf?_content table container blocks notCard notBoard notView,
      parentCard?_content blocks notBoard notView]
    split <;> rfl

/-- A stored card is a parent beyond a list if it is in the workspace, some content of the
list hangs off its id, and no card of the list has that id. -/
theorem mem_storedParents_iff {card : Block} :
    card ∈ table.storedParents container blocks ↔
      (table.find? container.workspaceId card.id).filter Block.isCard = some card ∧
      (∃ block ∈ blocks, block.isCard = false ∧
        block.parentCard? (boardIds blocks) = some card.id) ∧
      lastOfKind? .card blocks card.id = none := by
  rw [BlockTable.storedParents, List.mem_filter, Option.filter_eq_some_iff,
    BlockTable.find?_eq_some_iff, lastOfKind?_eq_none_iff]
  simp only [Bool.and_eq_true, List.any_eq_true, List.all_eq_true, decide_eq_true_eq,
    Bool.not_eq_true', Bool.and_eq_false_imp, decide_eq_false_iff_not, Block.isCard]
  constructor
  · rintro ⟨stored, ⟨⟨isCard, here⟩, hangsOff⟩, noneThere⟩
    exact ⟨⟨⟨stored, here, trivial⟩, isCard⟩, hangsOff, noneThere⟩
  · rintro ⟨⟨⟨stored, here, -⟩, isCard⟩, hangsOff, noneThere⟩
    exact ⟨stored, ⟨⟨isCard, here⟩, hangsOff⟩, noneThere⟩

/-- The cards that blocks of a list belong to are the cards of the list and the stored
parents of its content. -/
theorem exists_cardOf?_iff (distinct : CardsDistinct blocks) {card : Block} :
    (∃ block ∈ blocks, table.cardOf? container blocks block = some card) ↔
      (card ∈ blocks ∧ card.isCard = true) ∨ card ∈ table.storedParents container blocks := by
  constructor
  · rintro ⟨block, member, found⟩
    cases isCard : block.isCard with
    | true =>
      have own : table.cardOf? container blocks block = lastOfKind? .card blocks block.id := by
        simp [BlockTable.cardOf?, of_decide_eq_true isCard]
      obtain ⟨inList, ofKind, -⟩ :=
        (lastOfKind?_card_eq_some_iff distinct).mp (own.symm.trans found)
      exact .inl ⟨inList, ofKind⟩
    | false =>
      rw [cardOf?_of_not_card isCard, Option.bind_eq_some_iff] at found
      obtain ⟨id, parent, found⟩ := found
      rcases Option.or_eq_some_iff.mp found with atHand | ⟨notAtHand, stored⟩
      · obtain ⟨inList, ofKind, -⟩ := (lastOfKind?_card_eq_some_iff distinct).mp atHand
        exact .inl ⟨inList, ofKind⟩
      · obtain ⟨-, named⟩ := BlockTable.place_of_find? (Option.filter_eq_some_iff.mp stored).1
        subst named
        exact .inr (mem_storedParents_iff.mpr ⟨stored, ⟨block, member, isCard, parent⟩, notAtHand⟩)
  · rintro (⟨member, isCard⟩ | beyond)
    · refine ⟨card, member, ?_⟩
      rw [← (lastOfKind?_card_eq_some_iff distinct).mpr ⟨member, isCard, rfl⟩]
      simp [BlockTable.cardOf?, of_decide_eq_true isCard]
    · obtain ⟨stored, ⟨block, member, notCard, parent⟩, notAtHand⟩ :=
        mem_storedParents_iff.mp beyond
      refine ⟨block, member, ?_⟩
      rw [cardOf?_of_not_card notCard, parent, Option.bind_some, notAtHand, Option.none_or, stored]

/-! ## The boards by which they are judged -/

/-- Cards behind a list bring no boards with them, so every root is judged as before. -/
theorem withholds_append_of_cards {others : List Block}
    (onlyCards : ∀ card ∈ others, card.isCard = true) (cutoff : Int64) :
    table.withholds container (blocks ++ others) cutoff =
      table.withholds container blocks cutoff := by
  have sameBoards (id : String) :
      lastOfKind? .board (blocks ++ others) id = lastOfKind? .board blocks id := by
    have noBoard : ∀ card ∈ others, card.kind ≠ .board := fun card member =>
      Block.kind_ne_board_of_isCard (onlyCards card member)
    rw [lastOfKind?_append, lastOfKind?_of_ne noBoard, Option.none_or]
  funext block
  simp only [BlockTable.withholds, BlockTable.isTemplateRoot, sameBoards]

/-- Only cards are withheld. -/
theorem isCard_of_withholds {cutoff : Int64} {block : Block}
    (withheld : table.withholds container blocks cutoff block = true) : block.isCard = true := by
  simp only [BlockTable.withholds, Bool.and_eq_true] at withheld
  exact withheld.1.1.1

/-- Serving a list with cards behind it withholds what serving the list withholds, and what
it withholds of these cards. -/
theorem withholdsSome_append {others : List Block}
    (onlyCards : ∀ card ∈ others, card.isCard = true) (cutoff : Int64) :
    table.withholdsSome container (blocks ++ others) cutoff =
      (table.withholdsSome container blocks cutoff ||
        others.any (table.withholds container blocks cutoff)) := by
  rw [BlockTable.withholdsSome, withholds_append_of_cards onlyCards, List.any_append]
  rfl

/-- The stored parents are cards, in whatever order they are. -/
theorem isCard_of_mem_storedParents {parents : List Block}
    (complete : parents.Perm (table.storedParents container blocks)) :
    ∀ card ∈ parents, card.isCard = true := by
  intro card member
  have stored := (mem_storedParents_iff.mp (complete.mem_iff.mp member)).1
  exact (Option.filter_eq_some_iff.mp stored).2

/-- Some block belongs to a card that is withheld exactly if serving withholds some card of
the list or of the stored parents of its content, in whatever order they stand behind it. -/
theorem holdsWithheld_eq_withholdsSome (distinct : CardsDistinct blocks) {parents : List Block}
    (complete : parents.Perm (table.storedParents container blocks)) (cutoff : Int64) :
    table.holdsWithheld container blocks cutoff =
      table.withholdsSome container (blocks ++ parents) cutoff := by
  rw [Bool.eq_iff_iff, BlockTable.holdsWithheld, BlockTable.withholdsSome,
    withholds_append_of_cards (isCard_of_mem_storedParents complete), List.any_eq_true,
    List.any_eq_true]
  constructor
  · rintro ⟨block, member, judged⟩
    obtain ⟨card, found, withheld⟩ := (Option.any_eq_true _ _).mp judged
    refine ⟨card, List.mem_append.mpr ?_, withheld⟩
    rcases (exists_cardOf?_iff distinct).mp ⟨block, member, found⟩ with ⟨inList, -⟩ | beyond
    · exact .inl inList
    · exact .inr (complete.mem_iff.mpr beyond)
  · rintro ⟨card, member, withheld⟩
    have judged : (card ∈ blocks ∧ card.isCard = true) ∨
        card ∈ table.storedParents container blocks := by
      rcases List.mem_append.mp member with inList | beyond
      · exact .inl ⟨inList, isCard_of_withholds withheld⟩
      · exact .inr (complete.mem_iff.mp beyond)
    obtain ⟨block, inList, found⟩ := (exists_cardOf?_iff distinct).mpr judged
    exact ⟨block, inList, (Option.any_eq_true _ _).mpr ⟨card, found, withheld⟩⟩

/-- Boards, views and cards have no parents beyond a list. -/
theorem storedParents_of_no_content
    (noContent : ∀ block ∈ blocks, block.kind = .board ∨ block.kind = .view ∨ block.kind = .card) :
    table.storedParents container blocks = [] := by
  rw [List.eq_nil_iff_forall_not_mem]
  intro card beyond
  obtain ⟨-, ⟨block, member, notCard, parent⟩, -⟩ := mem_storedParents_iff.mp beyond
  rcases noContent block member with board | view | isCard
  · simp [Block.parentCard?, Block.isBoard, board] at parent
  · simp [Block.parentCard?, view] at parent
  · simp [Block.isCard, isCard] at notCard

/-- If no block was marked as limited before, the marks of what is served say whether
serving replaced a block. -/
theorem exists_limited_view_iff {cutoff : Int64}
    (unmarked : ∀ block ∈ blocks, block.limited = false) :
    (∃ served ∈ blocks.map (table.view container blocks cutoff), served.limited = true) ↔
      table.withholdsSome container blocks cutoff = true := by
  simp only [List.mem_map, BlockTable.withholdsSome, List.any_eq_true]
  constructor
  · rintro ⟨_, ⟨block, member, rfl⟩, marked⟩
    refine ⟨block, member, ?_⟩
    by_contra kept
    rw [BlockTable.view, if_neg kept, unmarked block member] at marked
    cases marked
  · rintro ⟨block, member, withheld⟩
    refine ⟨_, ⟨block, member, rfl⟩, ?_⟩
    rw [BlockTable.view, if_pos withheld]
    rfl

/-! ## Main statement -/

/-- On a limited server the check on a list says yes exactly if serving the list, with the
stored parents of its content behind it, replaces some block by its limited view; if no
block was marked as limited before, the served blocks show it.  So the check says yes
whenever serving the list alone replaces a card, and on a list without content the two
come to the same. -/
theorem holdsLimited_eq_serving_withholds (arrange : List Block → List Block)
    (permutes : ∀ cards, (arrange cards).Perm cards) (server : Server MemoryStore)
    (noFailure : server.store.fetchFailure = none) (limited : server.cardLimit ≠ 0)
    (cloud : server.store.license.any License.isCloud = true) (container : Container)
    (blocks parents : List Block) (distinct : CardsDistinct blocks)
    (complete : parents.Perm (server.store.blocks.storedParents container blocks)) :
    ∃ holds,
      (outcome (Server.holdsLimitedArranged arrange container blocks) server).1 = .ok holds ∧
      (∀ listed, (outcome (Server.applyLimits container listed) server).1 =
        .ok (listed.map (server.store.blocks.view container listed server.store.cutoff))) ∧
      holds = server.store.blocks.withholdsSome container (blocks ++ parents)
        server.store.cutoff ∧
      ((∀ block ∈ blocks ++ parents, block.limited = false) →
        ∀ served, (outcome (Server.applyLimits container (blocks ++ parents)) server).1 =
          .ok served → (holds = true ↔ ∃ block ∈ served, block.limited = true)) ∧
      (server.store.blocks.withholdsSome container blocks server.store.cutoff = true →
        holds = true) ∧
      ((∀ block ∈ blocks, block.kind = .board ∨ block.kind = .view ∨ block.kind = .card) →
        holds = server.store.blocks.withholdsSome container blocks server.store.cutoff) := by
  have applies : server.limitApplies = true := by
    simp [Server.limitApplies, limited, cloud]
  have serves := Server.answer_applyLimits noFailure applies container
  have agree := holdsWithheld_eq_withholdsSome distinct complete server.store.cutoff
  refine ⟨_, Server.answer_holdsLimitedArranged permutes noFailure container blocks, serves,
    agree, ?_, ?_, ?_⟩
  · intro unmarked served servedWithParents
    rw [serves] at servedWithParents
    cases servedWithParents
    rw [agree, exists_limited_view_iff unmarked]
  · intro withheld
    rw [agree, withholdsSome_append (isCard_of_mem_storedParents complete), withheld,
      Bool.true_or]
  · intro noContent
    rw [storedParents_of_no_content noContent] at complete
    rw [agree, complete.eq_nil, List.append_nil]

/-- A text that hangs off a stored card, and an old card on a template. -/
def sampleList : List Block :=
  [Block.fresh "text" .text "stored" "board", oldCard "own" "template"]

/-- On the sample server the card of the text is the one stored parent, and as it is
withheld, the check says yes. -/
theorem holdsLimited_sampleList :
    (∀ cards : List Block, cards.reverse.Perm cards) ∧
      sampleServer.store.fetchFailure = none ∧ sampleServer.cardLimit ≠ 0 ∧
      sampleServer.store.license.any License.isCloud = true ∧ CardsDistinct sampleList ∧
      (sampleServer.store.blocks.storedParents ⟨"0"⟩ sampleList).map Block.id = ["stored"] ∧
      (outcome (Server.holdsLimitedArranged List.reverse ⟨"0"⟩ sampleList) sampleServer).1 =
        .ok true := by
  have onlyCard : ∀ card ∈ sampleList, card.isCard = true → card = oldCard "own" "template" := by
    simp [sampleList, Block.isCard, Block.fresh]
  have distinct : CardsDistinct sampleList := by
    intro card member other otherMember isCard otherIsCard _
    rw [onlyCard card member isCard, onlyCard other otherMember otherIsCard]
  refine ⟨List.reverse_perm, rfl, by decide, rfl, distinct, rfl, ?_⟩
  obtain ⟨holds, answered, -, agree, -⟩ := holdsLimited_eq_serving_withholds List.reverse
    List.reverse_perm sampleServer rfl (by decide) rfl ⟨"0"⟩ sampleList _ distinct
    (List.Perm.refl _)
  rw [answered, agree]
  rfl

end CardLimits
