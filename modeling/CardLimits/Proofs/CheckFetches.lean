import CardLimits.Proofs.Fetches
/-!
# What the check fetches

The check looks up cards first, those that content hangs off and that are not at hand, and the
roots of all cards after that (`AskedByCheck`).  Each of the two is one fetch, or none if nothing
is missing, and none comes behind one that fails (`MemoryStore.checkFetches`,
`check_asks_for_what_it_needs`).  The order in which the cards are gone through decides the order
of the second fetch, and nothing else (`check_ignores_card_order`).
-/

namespace CardLimits

/-! ## What is asked for -/

/-- The ids of the cards among some blocks. -/
def cardIds (blocks : List Block) : List String :=
  (blocks.filter Block.isCard).map Block.id

/-- The ids of the cards that the content among some blocks hangs off, one block after the
other. -/
def parentCards (blocks : List Block) : List String :=
  (blocks.filter fun block => !block.isCard).filterMap (Block.parentCard? (boardIds blocks))

/-- A card of the list is the last one with its id or has the id of that one. -/
theorem mem_cardIds {blocks : List Block} {id : String} :
    id ∈ cardIds blocks ↔ (lastOfKind? .card blocks id).isSome :=
  mem_idsOfKind .card

/-- A block hangs off its parent unless it is a board or a view, or the parent is empty, its
root or a board of the list. -/
theorem Block.parentCard?_eq_some_iff {boardIds : List String} {block : Block} {id : String} :
    block.parentCard? boardIds = some id ↔
      (block.isBoard = false ∧ block.kind ≠ .view) ∧
        block.parentId = id ∧ id ≠ "" ∧ id ≠ block.rootId ∧ id ∉ boardIds := by
  rw [parentCard?, Option.ite_none_left_eq_some, Option.ite_none_left_eq_some,
    Option.some.injEq]
  refine and_congr (by simp) ?_
  constructor
  · rintro ⟨onCard, rfl⟩
    simpa [and_assoc] using onCard
  · rintro ⟨rfl, onCard⟩
    simpa [and_assoc] using onCard

/-- The ids that a check asks for, cards first and roots then. -/
structure AskedByCheck (table : BlockTable) (container : Container) (blocks : List Block)
    (cards roots : List String) : Prop where
  /-- The cards that content hangs off and that are not at hand, in the order in which they come
  first. -/
  inOrder : FirstOccurrences (parentCards blocks) (fun id => id ∉ cardIds blocks) cards
  eachCardOnce : cards.Nodup
  /-- A card is asked for because some content has it as its parent.  Boards and views are no
  content, and a card on a board has the board as its parent. -/
  onlyContent : ∀ id ∈ cards, id ≠ "" ∧ id ∉ boardIds blocks ∧ id ∉ cardIds blocks ∧
    ∃ block ∈ blocks, block.isCard = false ∧ block.isBoard = false ∧ block.kind ≠ .view ∧
      block.parentId = id ∧ block.rootId ≠ id
  eachRootOnce : roots.Nodup
  /-- The roots of the cards at hand and of the stored cards among those that were asked for. -/
  mem_roots : ∀ id, id ∈ roots ↔ id ≠ "" ∧ id ∉ boardIds blocks ∧
    ((∃ cardId card, lastOfKind? .card blocks cardId = some card ∧ card.rootId = id) ∨
      ∃ cardId ∈ cards, ∃ card, table.find? container.workspaceId cardId = some card ∧
        card.isCard = true ∧ card.rootId = id)

/-- The cards that are missing are those that are not at hand. -/
theorem firstOccurrences_missingCards (blocks : List Block) :
    FirstOccurrences (parentCards blocks) (fun id => id ∉ cardIds blocks)
      (missingCards blocks) := by
  refine (firstOccurrences_missingIds (ownCards blocks).contains _).congr fun id member => ?_
  obtain ⟨block, -, parent⟩ := List.mem_filterMap.mp member
  have named : id ≠ "" := (Block.parentCard?_eq_some_iff.mp parent).2.2.1
  simp [named, Table.contains, get?_ownCards, mem_cardIds]

/-- The cards that a check asks for are settled, and the roots are up to their order. -/
theorem AskedByCheck.unique {table : BlockTable} {container : Container} {blocks : List Block}
    {cards roots otherCards otherRoots : List String}
    (first : AskedByCheck table container blocks cards roots)
    (second : AskedByCheck table container blocks otherCards otherRoots) :
    cards = otherCards ∧ roots.Perm otherRoots := by
  obtain rfl : cards = otherCards := first.inOrder.unique second.inOrder
  refine ⟨rfl, (List.perm_ext_iff_of_nodup first.eachRootOnce second.eachRootOnce).mpr ?_⟩
  intro id
  exact (first.mem_roots id).trans (second.mem_roots id).symm

/-- What is known as a card is a card at hand, or a stored one that was asked for. -/
theorem mem_values_cardsOf {table : BlockTable} {container : Container} {blocks : List Block}
    {card : Block} :
    card ∈ (table.cardsOf container blocks).values ↔
      (∃ id, lastOfKind? .card blocks id = some card) ∨
        ∃ id ∈ missingCards blocks, table.find? container.workspaceId id = some card ∧
          card.isCard = true := by
  rw [Table.mem_values_iff, ← exists_or]
  refine exists_congr fun id => ?_
  rw [BlockTable.cardsOf, get?_cardsFrom, Option.or_eq_some_iff]
  refine or_congr_right ?_
  constructor
  · rintro ⟨-, fetched⟩
    obtain ⟨asked, fetched⟩ := Option.ite_none_right_eq_some.mp fetched
    exact ⟨asked, Option.filter_eq_some_iff.mp fetched⟩
  · rintro ⟨asked, fetched⟩
    have notAtHand := (mem_missingCards.mp asked).2.2
    exact ⟨notAtHand, by rw [if_pos asked, Option.filter_eq_some_iff.mpr fetched]⟩

/-- The roots that a check asks for when it goes through the cards in some order. -/
def BlockTable.checkedRoots (table : BlockTable) (arrange : List Block → List Block)
    (container : Container) (blocks : List Block) : List String :=
  missingRoots (templateInputs arrange blocks (table.cardsOf container blocks))

/-- The fetches of a check that asks for some cards and for some roots then: none without a
cutoff, and none behind one that fails. -/
def MemoryStore.checkFetches (store : MemoryStore) (cards roots : List String) :
    List (List String) :=
  if store.cutoff = 0 then []
  else if store.fetchFailure.isSome then (fetchesOf cards ++ fetchesOf roots).take 1
  else fetchesOf cards ++ fetchesOf roots

/-- The answer of a check that asks for some cards and for some roots then, if `holds` is what
it finds out.  A failure of fetches shows if it needs any. -/
def MemoryStore.checkAnswer (store : MemoryStore) (cards roots : List String) (holds : Bool) :
    Except AppError Bool :=
  match store.fetchFailure with
  | some text =>
    if store.cutoff = 0 ∨ cards = [] ∧ roots = [] then .ok holds else .error (.internal text)
  | none => .ok holds

/-- A check fails exactly if there is a cutoff, something is asked for and fetches fail, and then
with their text. -/
theorem MemoryStore.checkAnswer_eq_error_iff {store : MemoryStore} {cards roots : List String}
    {holds : Bool} {error : AppError} :
    store.checkAnswer cards roots holds = .error error ↔
      store.cutoff ≠ 0 ∧ (cards ≠ [] ∨ roots ≠ []) ∧
        ∃ text, store.fetchFailure = some text ∧ error = .internal text := by
  rw [checkAnswer]
  cases store.fetchFailure with
  | none => simp
  | some text =>
    by_cases needless : store.cutoff = 0 ∨ cards = [] ∧ roots = []
    · simp only [if_pos needless, reduceCtorEq, false_iff]
      grind
    · simp only [if_neg needless, Except.error.injEq]
      grind

/-- In whatever order the same roots are asked for, a check answers alike. -/
theorem MemoryStore.checkAnswer_of_perm (store : MemoryStore) (cards : List String)
    {roots others : List String} (same : roots.Perm others) (holds : Bool) :
    store.checkAnswer cards roots holds = store.checkAnswer cards others holds := by
  have emptyAlike : roots = [] ↔ others = [] := ⟨fun empty => (empty ▸ same).nil_eq.symm,
    fun empty => (empty ▸ same).eq_nil⟩
  simp only [checkAnswer, emptyAlike]

/-- The server after it made other fetches. -/
def Server.withFetches (fetches : List (List String)) (server : Server MemoryStore) :
    Server MemoryStore :=
  { server with store := { server.store with fetches := server.store.fetches ++ fetches } }

/-- If there is a cutoff, a fetch of cards and one of roots behind it come to what a check answers
and fetches. -/
theorem Server.fetch_cards_then_roots {server : Server MemoryStore}
    (reached : server.store.cutoff ≠ 0) (container : Container) (cards roots : List String)
    (holds : Bool) :
    (match server.store.lookUp container cards with
      | .error error => (.error error, server.recordFetch cards)
      | .ok _ => ((server.store.lookUp container roots).map fun _ => holds,
          (server.recordFetch cards).recordFetch roots)) =
      (server.store.checkAnswer cards roots holds,
        server.withFetches (server.store.checkFetches cards roots)) := by
  rw [MemoryStore.checkAnswer, MemoryStore.checkFetches, if_neg reached, withFetches]
  cases failure : server.store.fetchFailure with
  | none => simp [MemoryStore.lookUp_of_noFailure failure, recordFetch_eq, Except.map]
  | some text =>
    -- The first of the two lists that is not empty is asked for, and nothing behind it.
    cases cards with
    | cons card rest =>
      simp [MemoryStore.lookUp, failure, reached, recordFetch_eq, fetchesOf]
    | nil =>
      cases roots with
      | cons root rest =>
        simp [MemoryStore.lookUp, failure, reached, recordFetch_eq, fetchesOf, Except.map]
      | nil =>
        simp [MemoryStore.lookUp, failure, recordFetch_eq, fetchesOf, Except.map]

section Arranged

variable {arrange : List Block → List Block} (permutes : ∀ cards, (arrange cards).Perm cards)

include permutes

/-- What the check asks for, in whatever order it goes through the cards. -/
theorem askedByCheck (table : BlockTable) (container : Container) (blocks : List Block) :
    AskedByCheck table container blocks (missingCards blocks)
      (table.checkedRoots arrange container blocks) where
  inOrder := firstOccurrences_missingCards blocks
  eachCardOnce := (firstOccurrences_missingCards blocks).nodup
  onlyContent := by
    intro id asked
    obtain ⟨named, missing⟩ := ((firstOccurrences_missingCards blocks).mem_iff id).mp asked
    obtain ⟨block, filtered, parent⟩ := List.mem_filterMap.mp named
    obtain ⟨member, notCard⟩ := List.mem_filter.mp filtered
    obtain ⟨⟨notBoard, notView⟩, rfl, notEmpty, notRoot, notOnBoard⟩ :=
      Block.parentCard?_eq_some_iff.mp parent
    refine ⟨notEmpty, notOnBoard, missing, block, member, ?_, notBoard, notView, rfl, notRoot.symm⟩
    simpa using notCard
  eachRootOnce := nodup_missingRoots _
  mem_roots := by
    intro id
    rw [BlockTable.checkedRoots, mem_missingRoots_templateInputs permutes
      fun _ member => isCard_of_mem_cardsOf member, and_comm, and_assoc]
    refine and_congr_right fun _ => and_congr (by simp [mem_boardIds]) ?_
    simp only [mem_values_cardsOf]
    grind

/-- The check answers and fetches as its two lists of ids say, and leaves everything else as it
is. -/
theorem Server.outcome_check (server : Server MemoryStore) (container : Container)
    (blocks : List Block) :
    let cards := missingCards blocks
    let roots := server.store.blocks.checkedRoots arrange container blocks
    outcome (holdsLimitedArranged arrange container blocks) server =
      (server.store.checkAnswer cards roots
          (server.store.blocks.holdsWithheld container blocks server.store.cutoff),
        server.withFetches (server.store.checkFetches cards roots)) := by
  intro cards roots
  by_cases noCutoff : server.store.cutoff = 0
  · have nothing : server.store.blocks.holdsWithheld container blocks server.store.cutoff =
        false := by
      rw [noCutoff]
      exact holdsWithheld_zero _ _ _
    rw [outcome_holdsLimitedArranged, if_pos noCutoff, nothing, MemoryStore.checkAnswer,
      MemoryStore.checkFetches, if_pos noCutoff, withFetches, List.append_nil]
    refine Prod.ext ?_ rfl
    cases server.store.fetchFailure <;> simp [noCutoff]
  · rw [outcome_holdsLimitedArranged_of_cutoff permutes noCutoff]
    exact fetch_cards_then_roots noCutoff container cards roots _

end Arranged

/-! ## Main statements -/

/-- The check asks for what it needs, in at most two fetches, and leaves everything else as it is.
Without a cutoff it fetches nothing.  With one it asks for the cards that content hangs off and
that are not at hand, each once and in the order in which they come first, and then for the roots
of all cards, at hand or fetched, each once and in some order, as far as they are no boards at
hand; it leaves out a fetch of nothing.  It fails exactly if there is a cutoff, something is asked
for and fetches fail, with the error of the store and after one fetch. -/
theorem check_asks_for_what_it_needs (arrange : List Block → List Block)
    (permutes : ∀ cards, (arrange cards).Perm cards) (server : Server MemoryStore)
    (container : Container) (blocks : List Block) :
    ∃ cards roots answer,
      AskedByCheck server.store.blocks container blocks cards roots ∧
      outcome (Server.holdsLimitedArranged arrange container blocks) server =
        (answer, server.withFetches (server.store.checkFetches cards roots)) ∧
      ∀ error, answer = .error error ↔
        server.store.cutoff ≠ 0 ∧ (cards ≠ [] ∨ roots ≠ []) ∧
          ∃ text, server.store.fetchFailure = some text ∧ error = .internal text := by
  refine ⟨missingCards blocks, server.store.blocks.checkedRoots arrange container blocks, _,
    askedByCheck permutes server.store.blocks container blocks,
    Server.outcome_check permutes server container blocks, ?_⟩
  intro error
  exact MemoryStore.checkAnswer_eq_error_iff

/-- Two blocks that hang off a stored card, one that hangs off a card that is not stored and one
off a card at hand, and blocks that hang off no card: a view, one without a parent, and one on the
board. -/
def mixedContent : List Block :=
  [Block.fresh "first" .text "stored" "board", Block.fresh "view" .view "newer" "board",
    Block.fresh "second" .comment "gone" "board", oldCard "card" "template",
    Block.fresh "third" .image "stored" "board", Block.fresh "own" .text "card" "board",
    Block.fresh "loose" .text "" "board", Block.fresh "plain" .divider "board" "board"]

/-- Over the sample server two cards are asked for and then two roots.  If fetches fail, the first
of them is the only one. -/
theorem check_asks_for_what_it_needs_mixedContent :
    (∀ cards : List Block, cards.reverse.Perm cards) ∧
      (∃ answer roots,
        outcome (Server.holdsLimitedArranged List.reverse ⟨"0"⟩ mixedContent) sampleServer =
          (.ok answer, sampleServer.withFetches ([["stored", "gone"]] ++ fetchesOf roots)) ∧
        roots.Perm ["template", "board"]) ∧
      let failing : Server MemoryStore :=
        { sampleServer with store := { sampleServer.store with fetchFailure := some "down" } }
      outcome (Server.holdsLimitedArranged List.reverse ⟨"0"⟩ mixedContent) failing =
        (.error (.internal "down"), failing.withFetches [["stored", "gone"]]) := by
  refine ⟨List.reverse_perm, ?_, ?_⟩
  · obtain ⟨cards, roots, answer, asked, ran, fails⟩ :=
      check_asks_for_what_it_needs List.reverse List.reverse_perm sampleServer ⟨"0"⟩ mixedContent
    obtain ⟨rfl, sameRoots⟩ := asked.unique
      (askedByCheck (fun cards => .refl (id cards)) sampleServer.store.blocks ⟨"0"⟩ mixedContent)
    cases answer with
    | error error =>
      obtain ⟨-, -, text, failure, -⟩ := (fails error).mp rfl
      cases failure
    | ok holds => exact ⟨holds, roots, ran, sameRoots⟩
  · intro failing
    obtain ⟨cards, roots, answer, asked, ran, fails⟩ :=
      check_asks_for_what_it_needs List.reverse List.reverse_perm failing ⟨"0"⟩ mixedContent
    obtain ⟨rfl, -⟩ := asked.unique
      (askedByCheck List.reverse_perm failing.store.blocks ⟨"0"⟩ mixedContent)
    have failed : answer = .error (.internal "down") :=
      (fails _).mpr ⟨by decide, .inl (by decide), "down", rfl, rfl⟩
    rw [ran, failed]
    rfl

/-- A view and a text with the same parent. -/
def viewAndText : List Block :=
  [Block.fresh "view" .view "card" "board", Block.fresh "text" .text "card" "board"]

/-- The card that a text hangs off is asked for, although it is the parent of a view as well. -/
theorem parent_of_view_is_asked_for :
    let server : Server MemoryStore := { store := { cutoff := 150 } }
    (outcome (Server.holdsLimited ⟨"0"⟩ viewAndText) server).2.store.fetches = [["card"]] ∧
      ¬ ∀ view ∈ viewAndText, view.kind = .view → view.parentId ∉ ["card"] := by
  refine ⟨rfl, fun never => ?_⟩
  exact never (Block.fresh "view" .view "card" "board") (List.mem_cons_self ..) rfl
    (List.mem_singleton_self _)

/-- The order in which the check goes through the cards does not show, whether or not fetches
fail.  In any two orders it comes to the same answer, or to the same error, after a fetch of the
same cards and one of the same roots, these up to their order and none of them twice. -/
theorem check_ignores_card_order (arrange arrangeOther : List Block → List Block)
    (permutes : ∀ cards, (arrange cards).Perm cards)
    (permutesOther : ∀ cards, (arrangeOther cards).Perm cards) (server : Server MemoryStore)
    (container : Container) (blocks : List Block) :
    ∃ answer roots rootsOther,
      outcome (Server.holdsLimitedArranged arrange container blocks) server =
        (answer, server.withFetches (server.store.checkFetches (missingCards blocks) roots)) ∧
      outcome (Server.holdsLimitedArranged arrangeOther container blocks) server =
        (answer,
          server.withFetches (server.store.checkFetches (missingCards blocks) rootsOther)) ∧
      roots.Perm rootsOther ∧ roots.Nodup ∧ rootsOther.Nodup := by
  have asked := askedByCheck permutes server.store.blocks container blocks
  have askedOther := askedByCheck permutesOther server.store.blocks container blocks
  have sameRoots := (asked.unique askedOther).2
  refine ⟨_, _, _, Server.outcome_check permutes server container blocks, ?_, sameRoots,
    asked.eachRootOnce, askedOther.eachRootOnce⟩
  rw [Server.outcome_check permutesOther,
    MemoryStore.checkAnswer_of_perm server.store _ sameRoots]

/-- In the one order the root of the card at hand is asked for first, and in the other one that of
the stored card; the answer is the same. -/
theorem check_ignores_card_order_mixedContent :
    (∀ cards : List Block, (id cards).Perm cards) ∧
      (∀ cards : List Block, cards.reverse.Perm cards) ∧
      (outcome (Server.holdsLimitedArranged id ⟨"0"⟩ mixedContent) sampleServer).2.store.fetches =
        [["stored", "gone"], ["template", "board"]] ∧
      (outcome (Server.holdsLimitedArranged List.reverse ⟨"0"⟩ mixedContent)
          sampleServer).2.store.fetches = [["stored", "gone"], ["board", "template"]] ∧
      (outcome (Server.holdsLimitedArranged id ⟨"0"⟩ mixedContent) sampleServer).1 =
        (outcome (Server.holdsLimitedArranged List.reverse ⟨"0"⟩ mixedContent) sampleServer).1 := by
  refine ⟨fun cards => .refl cards, List.reverse_perm, rfl, rfl, ?_⟩
  obtain ⟨answer, roots, rootsOther, ran, ranOther, -⟩ :=
    check_ignores_card_order id List.reverse (fun cards => .refl cards) List.reverse_perm
      sampleServer ⟨"0"⟩ mixedContent
  rw [ran, ranOther]

end CardLimits
