import CardLimits.Proofs.Limits
import CardLimits.Proofs.Lookups
import CardLimits.Proofs.Reading
/-!
# Blocks judged one at a time

A server looks up what it needs for a whole list at once.  Here is the plain
definition beside it, which judges one block after the other against the list and
the store: `BlockTable.isTemplateRoot` says whether a root is a template,
`BlockTable.cardOf?` which card a block belongs to, and `BlockTable.withholds`
whether a card is withheld.  Over a store in memory that answers fetches, both come
to the same, for the blocks as they are served (`applyLimits_eq_map_view`) and for
whether some block is or belongs to a limited card (`holdsLimited_eq_exists_card`).
-/

namespace CardLimits

namespace BlockTable

/-- Whether the root that a block of a list names is a template.  The last board of the
list with that id settles it; without one the stored block does, whatever it is. -/
def isTemplateRoot (table : BlockTable) (container : Container) (blocks : List Block)
    (root : String) : Bool :=
  match lastOfKind? .board blocks root with
  | some board => board.isTemplate
  | none => root ≠ "" && (table.find? container.workspaceId root).any Block.isTemplate

/-- Whether a block of a list is served as its limited view. -/
def withholds (table : BlockTable) (container : Container) (blocks : List Block)
    (cutoff : Int64) (block : Block) : Bool :=
  block.isCard && 0 < cutoff && block.updateAt ≤ cutoff &&
    !table.isTemplateRoot container blocks block.rootId

/-- A block of a list as it is served. -/
def view (table : BlockTable) (container : Container) (blocks : List Block)
    (cutoff : Int64) (block : Block) : Block :=
  if table.withholds container blocks cutoff block then block.limitedView else block

/-- The card that a block of a list belongs to.  A card is its own, and of several with
one id the last one counts; a board and a view have none, and neither has a block whose
parent is its root or a board of the list. -/
def cardOf? (table : BlockTable) (container : Container) (blocks : List Block)
    (block : Block) : Option Block :=
  match block.kind with
  | .card => lastOfKind? .card blocks block.id
  | .board | .view => none
  | _ =>
    if block.parentId = "" ∨ block.parentId = block.rootId ∨
        ∃ board ∈ blocks, board.isBoard ∧ board.id = block.parentId then none
    else (lastOfKind? .card blocks block.parentId).or
      ((table.find? container.workspaceId block.parentId).filter Block.isCard)

/-- Whether some block of a list belongs to a card that is withheld. -/
def holdsWithheld (table : BlockTable) (container : Container) (blocks : List Block)
    (cutoff : Int64) : Bool :=
  blocks.any fun block =>
    (table.cardOf? container blocks block).any (table.withholds container blocks cutoff)

/-- The templates that are known once the store has answered. -/
def templatesOf (table : BlockTable) (container : Container) (blocks : List Block) :
    Table Bool :=
  templatesFrom blocks ((missingRoots blocks).filterMap (table.find? container.workspaceId))

/-- The cards that are known once the store has answered. -/
def cardsOf (table : BlockTable) (container : Container) (blocks : List Block) : Table Block :=
  cardsFrom blocks ((missingCards blocks).filterMap (table.find? container.workspaceId))

end BlockTable

/-- What was noted of the license has no influence on what is found. -/
@[simp]
theorem lookUp_afterLimitCheck (server : Server MemoryStore) (container : Container)
    (ids : List String) :
    server.afterLimitCheck.store.lookUp container ids = server.store.lookUp container ids := by
  simp [MemoryStore.lookUp]

/-- A root that some block names, and is not a board itself, is judged by the templates
that were looked up as it is by itself. -/
theorem getD_templatesOf {table : BlockTable} {container : Container} {blocks : List Block}
    {root : String} (named : ∃ block ∈ blocks, block.isBoard = false ∧ block.rootId = root) :
    ((table.templatesOf container blocks).get? root).getD false =
      table.isTemplateRoot container blocks root := by
  rw [BlockTable.templatesOf, get?_templatesFrom, BlockTable.isTemplateRoot]
  cases atHand : lastOfKind? .board blocks root with
  | some board => rfl
  | none =>
    by_cases empty : root = ""
    · subst empty
      have notAsked : "" ∉ missingRoots blocks := fun missing =>
        (mem_missingRoots.mp missing).2.1 rfl
      simp [notAsked]
    · have asked : root ∈ missingRoots blocks := mem_missingRoots.mpr ⟨named, empty, atHand⟩
      cases table.find? container.workspaceId root <;> simp [asked, empty]

/-- A root is a template if the templates at hand say so, and without one at hand if the
stored block is one. -/
theorem isTemplateRoot_eq_getD (table : BlockTable) (container : Container) (blocks : List Block)
    (root : String) :
    table.isTemplateRoot container blocks root =
      ((ownTemplates blocks).get? root).getD
        (root ≠ "" && (table.find? container.workspaceId root).any Block.isTemplate) := by
  rw [BlockTable.isTemplateRoot, get?_ownTemplates]
  cases lastOfKind? .board blocks root <;> rfl

/-- Tables that know the same templates in a workspace withhold the same blocks of a list. -/
theorem withholds_of_same_templates {table other : BlockTable} {container : Container}
    (same : ∀ id, (table.find? container.workspaceId id).any Block.isTemplate =
      (other.find? container.workspaceId id).any Block.isTemplate) (blocks : List Block) :
    table.withholds container blocks = other.withholds container blocks := by
  funext cutoff block
  rw [BlockTable.withholds, BlockTable.withholds, isTemplateRoot_eq_getD, isTemplateRoot_eq_getD,
    same]

namespace Server

/-- What serving a list comes to: one fetch of the missing roots if a limit applies, and
nothing at all otherwise. -/
theorem outcome_applyLimits (container : Container) (blocks : List Block)
    (server : Server MemoryStore) :
    outcome (applyLimits container blocks) server =
      if server.limitApplies then
        ((server.store.lookUp container (missingRoots blocks)).map fun fetched =>
            blocks.map (Block.served (templatesFrom blocks fetched) server.store.cutoff),
          server.afterLimitCheck.recordFetch (missingRoots blocks))
      else (.ok blocks, server.afterLimitCheck) := by
  simp only [applyLimits, outcome_bind, outcome_isLimited]
  cases server.limitApplies with
  | false => rfl
  | true =>
    simp only [if_true, outcome_bind, outcome_onStore, Store.cutoff, outcome_get, outcome_pure,
      outcome_templates, lookUp_afterLimitCheck, afterLimitCheck_cutoff]
    cases server.store.lookUp container (missingRoots blocks) <;> rfl

end Server

/-- By the templates that were looked up a block of a list is limited exactly if it is
withheld when it is judged by itself. -/
theorem isLimited_templatesOf {table : BlockTable} {container : Container} {blocks : List Block}
    {cutoff : Int64} {block : Block} (member : block ∈ blocks) :
    block.isLimited (table.templatesOf container blocks) cutoff =
      table.withholds container blocks cutoff block := by
  rw [Block.isLimited, Block.isOutside, BlockTable.withholds]
  cases card : block.isCard with
  | false => simp
  | true =>
    have notBoard := Block.isBoard_of_isCard card
    rw [getD_templatesOf ⟨block, member, notBoard, rfl⟩, Bool.and_comm]

/-- A block of a list is served as it is judged by itself. -/
theorem served_eq_view {table : BlockTable} {container : Container} {blocks : List Block}
    {cutoff : Int64} {block : Block} (member : block ∈ blocks) :
    block.served (table.templatesOf container blocks) cutoff =
      table.view container blocks cutoff block := by
  rw [Block.served, BlockTable.view, isLimited_templatesOf member]

/-- A limited server serves a list exactly if no root is missing or the store answers, and
then every block as it is judged by itself. -/
theorem Server.answer_applyLimits_eq_ok_iff {server : Server MemoryStore}
    (applies : server.limitApplies = true) {container : Container} {blocks served : List Block} :
    (outcome (applyLimits container blocks) server).1 = .ok served ↔
      (missingRoots blocks = [] ∨ server.store.fetchFailure = none) ∧
        served = blocks.map (server.store.blocks.view container blocks server.store.cutoff) := by
  rw [outcome_applyLimits, if_pos applies]
  cases looked : server.store.lookUp container (missingRoots blocks) with
  | error error =>
    obtain ⟨asked, text, failure, -⟩ := MemoryStore.lookUp_eq_error_iff.mp looked
    simp [Except.map, asked, failure]
  | ok fetched =>
    obtain ⟨answers, rfl⟩ := MemoryStore.lookUp_eq_ok_iff.mp looked
    have eachServed : blocks.map (Block.served
          (server.store.blocks.templatesOf container blocks) server.store.cutoff) =
        blocks.map (server.store.blocks.view container blocks server.store.cutoff) :=
      List.map_congr_left fun block member => served_eq_view member
    rw [BlockTable.templatesOf] at eachServed
    simp [Except.map, answers, eachServed, eq_comm]

/-- A limited server whose store answers serves every block of a list as it is judged by
itself. -/
theorem Server.answer_applyLimits {server : Server MemoryStore}
    (noFailure : server.store.fetchFailure = none) (applies : server.limitApplies = true)
    (container : Container) (blocks : List Block) :
    (outcome (applyLimits container blocks) server).1 =
      .ok (blocks.map (server.store.blocks.view container blocks server.store.cutoff)) :=
  (answer_applyLimits_eq_ok_iff applies).mpr ⟨.inr noFailure, rfl⟩

/-- What was read before has no influence on what is served. -/
theorem Server.answer_applyLimits_withTraces (container : Container) (blocks : List Block)
    (licenseReads : Nat) (fetches : List (List String)) (server : Server MemoryStore) :
    (outcome (applyLimits container blocks) (server.withTraces licenseReads fetches)).1 =
      (outcome (applyLimits container blocks) server).1 := by
  rw [outcome_applyLimits, outcome_applyLimits]
  have sameLimit : (server.withTraces licenseReads fetches).limitApplies =
      server.limitApplies := rfl
  rw [sameLimit]
  split <;> rfl

/-- Without a positive cutoff every block stays as it is. -/
theorem view_of_not_positive {table : BlockTable} {container : Container} {blocks : List Block}
    {cutoff : Int64} (nothing : cutoff ≤ 0) : table.view container blocks cutoff = id := by
  funext block
  simp [BlockTable.view, BlockTable.withholds, Int64.not_lt.mpr nothing]

/-- Without a positive cutoff a list is served as it is, whether or not a limit applies. -/
theorem Server.answer_applyLimits_of_no_cutoff {server : Server MemoryStore}
    (noFailure : server.store.fetchFailure = none) (nothing : server.store.cutoff ≤ 0)
    (container : Container) (blocks : List Block) :
    (outcome (applyLimits container blocks) server).1 = .ok blocks := by
  cases applies : server.limitApplies with
  | true =>
    rw [answer_applyLimits noFailure applies, view_of_not_positive nothing, List.map_id]
  | false =>
    rw [outcome_applyLimits, applies]
    rfl

/-! ## The card that a block belongs to -/

/-- For content, that is neither a board, a view nor a card, its parent is looked at. -/
theorem cardOf?_content (table : BlockTable) (container : Container) (blocks : List Block)
    {block : Block} (notCard : block.isCard = false) (notBoard : block.isBoard = false)
    (notView : block.kind ≠ .view) :
    table.cardOf? container blocks block =
      if block.parentId = "" ∨ block.parentId = block.rootId ∨
          ∃ board ∈ blocks, board.isBoard ∧ board.id = block.parentId then none
      else (lastOfKind? .card blocks block.parentId).or
        ((table.find? container.workspaceId block.parentId).filter Block.isCard) := by
  cases kind : block.kind <;> simp_all [BlockTable.cardOf?, Block.isCard, Block.isBoard]

/-- The parent of content is looked at as a card unless it is empty, the root, or a board
of the list. -/
theorem parentCard?_content (blocks : List Block) {block : Block}
    (notBoard : block.isBoard = false) (notView : block.kind ≠ .view) :
    block.parentCard? (boardIds blocks) =
      if block.parentId = "" ∨ block.parentId = block.rootId ∨
          ∃ board ∈ blocks, board.isBoard ∧ board.id = block.parentId then none
      else some block.parentId := by
  have board : (boardIds blocks).contains block.parentId ↔
      ∃ board ∈ blocks, board.isBoard ∧ board.id = block.parentId := by
    simp [boardIds, and_assoc]
  rw [Block.parentCard?, if_neg (by simp [notBoard, notView])]
  refine if_congr ?_ rfl rfl
  rw [Bool.or_eq_true, Bool.or_eq_true, board, decide_eq_true_eq, String.isEmpty_iff, or_assoc]

/-- What was looked up under the card that decides about a block is the card that the
block belongs to. -/
theorem bind_cardsOf (table : BlockTable) (container : Container) {blocks : List Block}
    {block : Block} (member : block ∈ blocks) :
    (decidingCard? (boardIds blocks) block).bind (table.cardsOf container blocks).get? =
      table.cardOf? container blocks block := by
  rw [BlockTable.cardsOf]
  cases card : block.isCard with
  | true =>
    have kind : block.kind = .card := of_decide_eq_true card
    obtain ⟨last, found⟩ := exists_lastOfKind? member
    rw [kind] at found
    simp [decidingCard?, card, BlockTable.cardOf?, kind, get?_cardsFrom, found]
  | false =>
    rw [decidingCard?, card]
    by_cases aside : block.isBoard = true ∨ block.kind = .view
    · have noParent : block.parentCard? (boardIds blocks) = none := by
        simp [Block.parentCard?, aside]
      rw [if_neg (by simp), noParent]
      rcases aside with board | view
      · simp [BlockTable.cardOf?, of_decide_eq_true board]
      · simp [BlockTable.cardOf?, view]
    · obtain ⟨notBoard, notView⟩ := not_or.mp aside
      have notBoard : block.isBoard = false := Bool.eq_false_iff.mpr notBoard
      have parent := parentCard?_content blocks notBoard notView
      rw [if_neg (by simp), cardOf?_content table container blocks card notBoard notView]
      split
      · rename_i onBoard
        rw [parent, if_pos onBoard, Option.bind_none]
      · rename_i onCard
        rw [if_neg onCard] at parent
        rw [parent, Option.bind_some, get?_cardsFrom]
        cases atHand : lastOfKind? .card blocks block.parentId with
        | some last => rfl
        | none =>
          have asked : block.parentId ∈ missingCards blocks :=
            mem_missingCards.mpr
              ⟨⟨block, member, card, parent⟩, (not_or.mp onCard).1, atHand⟩
          rw [if_pos asked]

/-- A block belongs to a card only. -/
theorem isCard_of_cardOf? {table : BlockTable} {container : Container} {blocks : List Block}
    {block card : Block} (found : table.cardOf? container blocks block = some card) :
    card.isCard = true := by
  have ofLast {id : String} (last : lastOfKind? .card blocks id = some card) :
      card.isCard = true := decide_eq_true (of_lastOfKind? last).2.1
  cases kind : block.kind
  case card =>
    rw [BlockTable.cardOf?, kind] at found
    exact ofLast found
  case board | view =>
    rw [BlockTable.cardOf?, kind] at found
    cases found
  all_goals
    have notCard : block.isCard = false := by simp [Block.isCard, kind]
    have notBoard : block.isBoard = false := by simp [Block.isBoard, kind]
    have notView : block.kind ≠ .view := by simp [kind]
    rw [cardOf?_content table container blocks notCard notBoard notView] at found
    split at found
    · cases found
    · rcases Option.or_eq_some_iff.mp found with last | ⟨-, stored⟩
      · exact ofLast last
      · exact (Option.filter_eq_some_iff.mp stored).2

/-! ## Whether some block belongs to a limited card -/

/-- The blocks whose roots are asked for: the boards of a list, and cards in some order. -/
def templateInputs (arrange : List Block → List Block) (blocks : List Block)
    (cards : Table Block) : List Block :=
  blocks.filter Block.isBoard ++ arrange cards.values

/-- Whether the card that decides about some block is limited, by what was looked up. -/
def anyLimited (blocks : List Block) (cards : Table Block) (templates : Table Bool)
    (cutoff : Int64) : Bool :=
  blocks.any fun block =>
    match (decidingCard? (boardIds blocks) block).bind cards.get? with
    | some card => card.isLimited templates cutoff
    | none => false

/-- What the check comes to: two fetches one after the other, of cards and of the roots
of all cards, unless there is no cutoff. -/
theorem Server.outcome_holdsLimitedArranged (arrange : List Block → List Block)
    (container : Container) (blocks : List Block) (server : Server MemoryStore) :
    outcome (holdsLimitedArranged arrange container blocks) server =
      if server.store.cutoff = 0 then (.ok false, server)
      else
        match server.store.lookUp container (missingCards blocks) with
        | .error error => (.error error, server.recordFetch (missingCards blocks))
        | .ok fetched =>
          let cards := cardsFrom blocks fetched
          let inputs := templateInputs arrange blocks cards
          ((server.store.lookUp container (missingRoots inputs)).map fun fetched =>
              anyLimited blocks cards (templatesFrom inputs fetched) server.store.cutoff,
            (server.recordFetch (missingCards blocks)).recordFetch (missingRoots inputs)) := by
  simp only [holdsLimitedArranged, outcome_bind, outcome_onStore, Store.cutoff, outcome_get,
    outcome_pure, outcome_ite, outcome_cards]
  split
  · rfl
  · cases server.store.lookUp container (missingCards blocks) with
    | error error => rfl
    | ok cards =>
      simp only [Except.map, outcome_templates, recordFetch,
        MemoryStore.lookUp_recordFetch, templateInputs]
      cases server.store.lookUp container (missingRoots (blocks.filter Block.isBoard ++
        arrange (cardsFrom blocks cards).values)) <;> rfl

/-- Without a cutoff nothing is looked up, and nothing belongs to a limited card. -/
theorem Server.outcome_holdsLimited_of_no_cutoff {server : Server MemoryStore}
    (noCutoff : server.store.cutoff = 0) (container : Container) (blocks : List Block) :
    outcome (holdsLimited container blocks) server = (.ok false, server) := by
  rw [holdsLimited, outcome_holdsLimitedArranged, if_pos noCutoff]

/-- Cards behind the boards of a list bring no boards with them. -/
theorem lastOfKind?_templateInputs {arrange : List Block → List Block}
    (permutes : ∀ cards, (arrange cards).Perm cards) {blocks : List Block} {cards : Table Block}
    (onlyCards : ∀ card ∈ cards.values, card.isCard = true) (id : String) :
    lastOfKind? .board (templateInputs arrange blocks cards) id =
      lastOfKind? .board blocks id := by
  refine lastOfKind?_append_of_ne fun block present => ?_
  exact Block.kind_ne_board_of_isCard
    (onlyCards block ((permutes cards.values).mem_iff.mp present))

/-- The roots that are asked for are those of the cards, each unless it is empty or a board
at hand. -/
theorem mem_missingRoots_templateInputs {arrange : List Block → List Block}
    (permutes : ∀ cards, (arrange cards).Perm cards) {blocks : List Block} {cards : Table Block}
    (onlyCards : ∀ card ∈ cards.values, card.isCard = true) {id : String} :
    id ∈ missingRoots (templateInputs arrange blocks cards) ↔
      (∃ card ∈ cards.values, card.rootId = id) ∧ id ≠ "" ∧
        lastOfKind? .board blocks id = none := by
  rw [mem_missingRoots, lastOfKind?_templateInputs permutes onlyCards]
  refine and_congr_left fun _ => ⟨?_, ?_⟩
  · rintro ⟨block, member, notBoard, rooted⟩
    rcases List.mem_append.mp member with board | card
    · rw [(List.mem_filter.mp board).2] at notBoard
      cases notBoard
    · exact ⟨block, (permutes cards.values).mem_iff.mp card, rooted⟩
  · rintro ⟨card, member, rooted⟩
    have notBoard := Block.isBoard_of_isCard (onlyCards card member)
    exact ⟨card, List.mem_append_right _ ((permutes cards.values).mem_iff.mpr member), notBoard,
      rooted⟩

/-- A card that was looked up is judged by the templates of the boards that were asked for
as it is by itself, in whatever order the cards were. -/
theorem isLimited_eq_withholds {arrange : List Block → List Block}
    (permutes : ∀ cards, (arrange cards).Perm cards) {table : BlockTable}
    {container : Container} {blocks : List Block} {cards : Table Block} {cutoff : Int64}
    (onlyCards : ∀ card ∈ cards.values, card.isCard = true) {card : Block}
    (member : card ∈ cards.values) :
    card.isLimited (table.templatesOf container (templateInputs arrange blocks cards)) cutoff =
      table.withholds container blocks cutoff card := by
  have asked : card ∈ templateInputs arrange blocks cards :=
    List.mem_append_right _ ((permutes cards.values).mem_iff.mpr member)
  have notBoard := Block.isBoard_of_isCard (onlyCards card member)
  rw [Block.isLimited, Block.isOutside, BlockTable.withholds,
    getD_templatesOf ⟨card, asked, notBoard, rfl⟩, Bool.and_comm]
  simp only [BlockTable.isTemplateRoot, lastOfKind?_templateInputs permutes onlyCards]

/-- Only cards are known as cards. -/
theorem isCard_of_mem_cardsOf {table : BlockTable} {container : Container}
    {blocks : List Block} {card : Block}
    (member : card ∈ (table.cardsOf container blocks).values) : card.isCard = true := by
  obtain ⟨id, found⟩ := Table.mem_values_iff.mp member
  rw [BlockTable.cardsOf, get?_cardsFrom] at found
  rcases Option.or_eq_some_iff.mp found with last | ⟨-, fetched⟩
  · exact decide_eq_true (of_lastOfKind? last).2.1
  · split at fetched
    · exact (Option.filter_eq_some_iff.mp fetched).2
    · cases fetched

/-- By what was looked up some block belongs to a limited card exactly if one does when
each block is judged by itself. -/
theorem anyLimited_eq_holdsWithheld {arrange : List Block → List Block}
    (permutes : ∀ cards, (arrange cards).Perm cards) (table : BlockTable)
    (container : Container) (blocks : List Block) (cutoff : Int64) :
    anyLimited blocks (table.cardsOf container blocks)
        (table.templatesOf container
          (templateInputs arrange blocks (table.cardsOf container blocks))) cutoff =
      table.holdsWithheld container blocks cutoff := by
  rw [Bool.eq_iff_iff, anyLimited, BlockTable.holdsWithheld, List.any_eq_true, List.any_eq_true]
  refine exists_congr fun block => and_congr_right fun member => ?_
  have looked := bind_cardsOf table container member
  rw [looked]
  cases found : table.cardOf? container blocks block with
  | none => rfl
  | some card =>
    rw [found] at looked
    obtain ⟨id, -, under⟩ := Option.bind_eq_some_iff.mp looked
    have value := Table.mem_values_iff.mpr ⟨id, under⟩
    simp only [isLimited_eq_withholds permutes
      (fun _ member => isCard_of_mem_cardsOf member) value, Option.any_some]

/-- Without a cutoff nothing is withheld. -/
theorem holdsWithheld_zero (table : BlockTable) (container : Container) (blocks : List Block) :
    table.holdsWithheld container blocks 0 = false := by
  have nothing : table.withholds container blocks 0 = fun _ => false := by
    funext block
    simp [BlockTable.withholds]
  rw [BlockTable.holdsWithheld, nothing, List.any_eq_false]
  intro block _
  cases table.cardOf? container blocks block <;> simp

/-- If there is a cutoff, and the store answers both fetches, the check says whether some
block belongs to a card that is withheld, in whatever order the cards' boards are asked
for. -/
theorem Server.outcome_holdsLimitedArranged_of_cutoff {arrange : List Block → List Block}
    (permutes : ∀ cards, (arrange cards).Perm cards) {server : Server MemoryStore}
    (reached : server.store.cutoff ≠ 0) (container : Container) (blocks : List Block) :
    outcome (holdsLimitedArranged arrange container blocks) server =
      match server.store.lookUp container (missingCards blocks) with
      | .error error => (.error error, server.recordFetch (missingCards blocks))
      | .ok _ =>
        let roots := missingRoots
          (templateInputs arrange blocks (server.store.blocks.cardsOf container blocks))
        ((server.store.lookUp container roots).map fun _ =>
            server.store.blocks.holdsWithheld container blocks server.store.cutoff,
          (server.recordFetch (missingCards blocks)).recordFetch roots) := by
  rw [outcome_holdsLimitedArranged, if_neg reached]
  cases answer : server.store.lookUp container (missingCards blocks) with
  | error error => rfl
  | ok fetched =>
    obtain ⟨-, rfl⟩ := MemoryStore.lookUp_eq_ok_iff.mp answer
    refine Prod.ext ?_ rfl
    have judged := anyLimited_eq_holdsWithheld permutes server.store.blocks container blocks
      server.store.cutoff
    rw [← judged]
    exact MemoryStore.map_lookUp server.store container _ _

/-- If the store answers, the check says whether some block belongs to a card that is
withheld, in whatever order the cards' boards are asked for. -/
theorem Server.answer_holdsLimitedArranged {arrange : List Block → List Block}
    (permutes : ∀ cards, (arrange cards).Perm cards) {server : Server MemoryStore}
    (noFailure : server.store.fetchFailure = none) (container : Container)
    (blocks : List Block) :
    (outcome (holdsLimitedArranged arrange container blocks) server).1 =
      .ok (server.store.blocks.holdsWithheld container blocks server.store.cutoff) := by
  by_cases noCutoff : server.store.cutoff = 0
  · rw [outcome_holdsLimitedArranged, if_pos noCutoff, noCutoff, holdsWithheld_zero]
  · rw [outcome_holdsLimitedArranged_of_cutoff permutes noCutoff]
    simp only [MemoryStore.lookUp_of_noFailure noFailure, Except.map]

/-- Some block belongs to a card that is withheld exactly if there is a cutoff and some
block belongs to a card that is as old and whose root is no template. -/
theorem holdsWithheld_iff {table : BlockTable} {container : Container} {blocks : List Block}
    {cutoff : Int64} :
    table.holdsWithheld container blocks cutoff = true ↔
      0 < cutoff ∧ ∃ block ∈ blocks, ∃ card,
        table.cardOf? container blocks block = some card ∧ card.updateAt ≤ cutoff ∧
        table.isTemplateRoot container blocks card.rootId = false := by
  rw [BlockTable.holdsWithheld, List.any_eq_true]
  constructor
  · rintro ⟨block, member, withheld⟩
    obtain ⟨card, found, verdict⟩ := (Option.any_eq_true _ _).mp withheld
    simp only [BlockTable.withholds, Bool.and_eq_true, Bool.not_eq_true', decide_eq_true_eq]
      at verdict
    exact ⟨verdict.1.1.2, block, member, card, found, verdict.1.2, verdict.2⟩
  · rintro ⟨positive, block, member, card, found, old, noTemplate⟩
    refine ⟨block, member, ?_⟩
    simp [found, BlockTable.withholds, isCard_of_cardOf? found, positive, old, noTemplate]

/-! ## Main statements -/

/-- Serving a list is serving every block of it by itself: a card is replaced by its
limited view if there is a cutoff, it was last updated at or before it, and its root is
no template; every other block stays what it is.  Where no limit applies the whole list
stays, and nothing is fetched. -/
theorem applyLimits_eq_map_view (server : Server MemoryStore) (container : Container)
    (blocks : List Block) :
    (server.store.fetchFailure = none → server.cardLimit ≠ 0 →
        server.store.license.any License.isCloud = true →
        (outcome (Server.applyLimits container blocks) server).1 =
          .ok (blocks.map fun block =>
            if block.isCard ∧ 0 < server.store.cutoff ∧ block.updateAt ≤ server.store.cutoff ∧
                server.store.blocks.isTemplateRoot container blocks block.rootId = false then
              block.limitedView
            else block)) ∧
      (¬ (server.cardLimit ≠ 0 ∧ server.store.license.any License.isCloud = true) →
        (outcome (Server.applyLimits container blocks) server).1 = .ok blocks ∧
        (outcome (Server.applyLimits container blocks) server).2.store.fetches =
          server.store.fetches) := by
  constructor
  · intro noFailure limited cloud
    have applies : server.limitApplies = true := by
      simp [Server.limitApplies, limited, cloud]
    rw [Server.answer_applyLimits noFailure applies]
    refine congrArg Except.ok (List.map_congr_left fun block _ => if_congr ?_ rfl rfl)
    simp [BlockTable.withholds, and_assoc]
  · intro unlimited
    have free : server.limitApplies = false := by
      simpa [Server.limitApplies] using unlimited
    rw [Server.outcome_applyLimits, if_neg (by simp [free])]
    exact ⟨rfl, Server.afterLimitCheck_fetches server⟩

/-- A limited server whose store holds a template, a board without any mark and two cards
on it. -/
def sampleServer : Server MemoryStore where
  store :=
    { license := some .cloud
      cutoff := 150
      blocks := BlockTable.empty.putAll
        ([(Block.fresh "template" .board "template" "template").withField
            Block.templateField (.bool true),
          Block.fresh "board" .board "board" "board",
          (Block.fresh "stored" .card "board" "board").withUpdateAt 100,
          (Block.fresh "newer" .card "board" "board").withUpdateAt 300].map
            fun block => { block with workspaceId := "0" }) }
  cardLimit := 1

/-- The sample server's second newest card was updated at 100. -/
theorem cutoffFor_two_sampleServer : sampleServer.store.blocks.cutoffFor 2 = 100 := by
  have times : sampleServer.store.blocks.countedCards.map Block.updateAt = [300, 100] := rfl
  simp [BlockTable.cutoffFor, BlockTable.countedTimes, times, List.mergeSort]

/-- A card that is as old as the cutoff and has an icon. -/
def oldCard (id root : String) : Block :=
  ((Block.fresh id .card root root).withUpdateAt 150).withField Block.iconField (.string "x")

/-- Of two cards as old as the cutoff, the sample server withholds the one that is not on
the template. -/
theorem applyLimits_sampleServer :
    sampleServer.store.fetchFailure = none ∧ sampleServer.cardLimit ≠ 0 ∧
      sampleServer.store.license.any License.isCloud = true ∧
      (outcome (Server.applyLimits ⟨"0"⟩
          [oldCard "first" "board", oldCard "second" "template"]) sampleServer).1 =
        .ok [(oldCard "first" "board").limitedView, oldCard "second" "template"] := by
  refine ⟨rfl, by decide, rfl, ?_⟩
  exact ((applyLimits_eq_map_view sampleServer ⟨"0"⟩ _).1 rfl (by decide) rfl).trans rfl

/-- The check says yes exactly if there is a cutoff and some block belongs to a card that
was last updated at or before it and whose root is no template; otherwise it says no.  The
order in which the cards' boards are asked for makes no difference. -/
theorem holdsLimited_eq_exists_card (arrange : List Block → List Block)
    (permutes : ∀ cards, (arrange cards).Perm cards) (server : Server MemoryStore)
    (noFailure : server.store.fetchFailure = none) (container : Container)
    (blocks : List Block) :
    ∃ holds, (outcome (Server.holdsLimitedArranged arrange container blocks) server).1 =
        .ok holds ∧
      (holds = true ↔ 0 < server.store.cutoff ∧ ∃ block ∈ blocks, ∃ card,
        server.store.blocks.cardOf? container blocks block = some card ∧
        card.updateAt ≤ server.store.cutoff ∧
        server.store.blocks.isTemplateRoot container blocks card.rootId = false) := by
  exact ⟨_, Server.answer_holdsLimitedArranged permutes noFailure container blocks,
    holdsWithheld_iff⟩

/-- The sample server finds the old card that a text hangs off in its store. -/
theorem holdsLimited_sampleServer :
    (∀ cards : List Block, cards.reverse.Perm cards) ∧
      sampleServer.store.fetchFailure = none ∧
      (outcome (Server.holdsLimitedArranged List.reverse ⟨"0"⟩
          [Block.fresh "text" .text "stored" "board"]) sampleServer).1 = .ok true := by
  refine ⟨List.reverse_perm, rfl, ?_⟩
  obtain ⟨holds, answered, verdict⟩ := holdsLimited_eq_exists_card List.reverse
    List.reverse_perm sampleServer rfl ⟨"0"⟩ [Block.fresh "text" .text "stored" "board"]
  have old : (100 : Int64) ≤ sampleServer.store.cutoff := by decide
  have yes : holds = true := verdict.mpr
    ⟨by decide, _, List.mem_singleton_self _, _, rfl, old, rfl⟩
  rw [answered, yes]

end CardLimits
