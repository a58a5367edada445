import CardLimits.Proofs.Agreement
import Mathlib.Data.List.Forall2
/-!
# Blocks that look alike

To look things up and to judge what is limited, a server reads little of a block: its kind
and id, its parent and root, its update time, and of a board whether it is a template.  Two
blocks that agree in these look alike (`Block.Alike`).  For two lists whose blocks look alike
one by one, a server asks for the same roots and the same cards, knows the same templates
afterwards, and judges every block as it judges its counterpart
(`outcome_templates_of_alike`, `outcome_holdsLimitedArranged_of_alike`).
-/

namespace CardLimits

/-- Whether two blocks agree in all that is read of a block to look things up and to judge
it. -/
structure Block.Alike (left right : Block) : Prop where
  id : left.id = right.id
  kind : left.kind = right.kind
  parentId : left.parentId = right.parentId
  rootId : left.rootId = right.rootId
  updateAt : left.updateAt = right.updateAt
  isTemplate : left.isBoard = true → left.isTemplate = right.isTemplate

namespace Block.Alike

variable {left right : Block}

/-- A block looks like itself. -/
theorem refl (block : Block) : block.Alike block where
  id := rfl
  kind := rfl
  parentId := rfl
  rootId := rfl
  updateAt := rfl
  isTemplate _ := rfl

/-- Boards look like boards. -/
theorem isBoard (alike : left.Alike right) : left.isBoard = right.isBoard := by
  rw [Block.isBoard, Block.isBoard, alike.kind]

/-- Cards look like cards. -/
theorem isCard (alike : left.Alike right) : left.isCard = right.isCard := by
  rw [Block.isCard, Block.isCard, alike.kind]

/-- Looking alike goes both ways. -/
theorem symm (alike : left.Alike right) : right.Alike left where
  id := alike.id.symm
  kind := alike.kind.symm
  parentId := alike.parentId.symm
  rootId := alike.rootId.symm
  updateAt := alike.updateAt.symm
  isTemplate board := (alike.isTemplate (alike.isBoard.trans board)).symm

/-- Blocks that look alike hang off the same card. -/
theorem parentCard? (alike : left.Alike right) (boardIds : List String) :
    left.parentCard? boardIds = right.parentCard? boardIds := by
  simp only [Block.parentCard?, alike.isBoard, alike.kind, alike.parentId, alike.rootId]

/-- Blocks that look alike are limited both or neither. -/
theorem isLimited (alike : left.Alike right) (templates : Table Bool) (cutoff : Int64) :
    left.isLimited templates cutoff = right.isLimited templates cutoff := by
  simp only [Block.isLimited, Block.isOutside, alike.isCard, alike.updateAt, alike.rootId]

end Block.Alike

/-! ## Optional values that are related -/

section Related

variable {α β : Type} {related : α → β → Prop} {first : Option α} {second : Option β}

/-- Of related optional values both are there or neither. -/
theorem isSome_eq_of_rel (both : Option.Rel related first second) :
    first.isSome = second.isSome := by
  cases both with
  | none => rfl
  | some pair => rfl

/-- Related optional values pass a test both or neither, if related values do. -/
theorem any_eq_of_rel {passes : α → Bool} {otherPasses : β → Bool}
    (both : Option.Rel related first second)
    (same : ∀ value other, related value other → passes value = otherPasses other) :
    first.any passes = second.any otherPasses := by
  cases both with
  | none => rfl
  | some pair => exact same _ _ pair

/-- Where one value falls back to another one, and so does its counterpart, the outcomes are
related. -/
theorem rel_or {fallback : Option α} {otherFallback : Option β}
    (both : Option.Rel related first second)
    (bothElse : Option.Rel related fallback otherFallback) :
    Option.Rel related (first.or fallback) (second.or otherFallback) := by
  cases both with
  | none =>
    rw [Option.none_or, Option.none_or]
    exact bothElse
  | some pair => exact .some pair

/-- An optional value is related to itself, if every value is. -/
theorem rel_refl {alike : α → α → Prop} (reflexive : ∀ value, alike value value)
    (found : Option α) : Option.Rel alike found found := by
  cases found with
  | none => exact .none
  | some value => exact .some (reflexive value)

end Related

variable {left right : List Block} (alike : List.Forall₂ Block.Alike left right)

include alike

/-! ## What is at hand -/

/-- Of lists that look alike the same is read, if of blocks that look alike the same is. -/
theorem filterMap_filter_of_alike {β : Type} {passes : Block → Bool} {read : Block → Option β}
    (samePass : ∀ block other : Block, block.Alike other → passes block = passes other)
    (sameRead : ∀ block other : Block, block.Alike other → passes block = true →
      read block = read other) :
    (left.filter passes).filterMap read = (right.filter passes).filterMap read := by
  have sameRest : List.Forall₂ (· = ·) ((left.filter passes).filterMap read)
      ((right.filter passes).filterMap read) := by
    rw [List.filterMap_filter, List.filterMap_filter]
    refine List.rel_filterMap (fun block other same => ?_) alike
    rw [← samePass block other same]
    split
    · rename_i passed
      rw [sameRead block other same passed]
      exact rel_refl (fun _ => rfl) _
    · exact .none
  rwa [List.forall₂_eq_eq_eq] at sameRest

/-- The same, for what is read of every block. -/
theorem map_filter_of_alike {β : Type} {passes : Block → Bool} {read : Block → β}
    (samePass : ∀ block other : Block, block.Alike other → passes block = passes other)
    (sameRead : ∀ block other : Block, block.Alike other → passes block = true →
      read block = read other) :
    (left.filter passes).map read = (right.filter passes).map read := by
  simp only [← List.filterMap_eq_map]
  exact filterMap_filter_of_alike alike samePass fun block other same passed =>
    congrArg some (sameRead block other same passed)

/-- Some block of one list passes a test exactly if some block of the other passes another
one, if blocks that look alike pass both or neither. -/
theorem any_eq_of_alike {passes otherPasses : Block → Bool}
    (same : ∀ block other : Block, block.Alike other → passes block = otherPasses other) :
    left.any passes = right.any otherPasses := by
  induction alike with
  | nil => rfl
  | cons firstAlike _ inductionHypothesis =>
    rw [List.any_cons, List.any_cons, same _ _ firstAlike, inductionHypothesis]

/-- The boards of lists that look alike have the same ids. -/
theorem boardIds_of_alike : boardIds left = boardIds right :=
  map_filter_of_alike alike (fun _ _ same => same.isBoard) fun _ _ same _ => same.id

/-- Lists that look alike have the same templates at hand. -/
theorem ownTemplates_of_alike : ownTemplates left = ownTemplates right := by
  refine congrArg Table.ofList (map_filter_of_alike alike (fun _ _ same => same.isBoard) ?_)
  intro board other same isBoard
  rw [same.id, same.isTemplate isBoard]

/-- What is found at hand in lists that look alike looks alike. -/
theorem lastOfKind?_of_alike (kind : BlockKind) (id : String) :
    Option.Rel Block.Alike (lastOfKind? kind left id) (lastOfKind? kind right id) := by
  induction alike with
  | nil => exact .none
  | @cons block other rest others firstAlike _ inductionHypothesis =>
    rw [lastOfKind?_cons, lastOfKind?_cons, firstAlike.kind, firstAlike.id]
    refine rel_or inductionHypothesis ?_
    split
    · exact .some firstAlike
    · exact .none

/-! ## What is missing -/

/-- From lists that look alike the same roots are missing. -/
theorem missingRoots_of_alike : missingRoots left = missingRoots right := by
  rw [missingRoots, missingRoots, ownTemplates_of_alike alike]
  refine congrArg (missingIds _) (map_filter_of_alike alike ?_ fun _ _ same _ => same.rootId)
  intro block other same
  rw [same.isBoard]

/-- From lists that look alike the same cards are missing. -/
theorem missingCards_of_alike : missingCards left = missingCards right := by
  have sameCards : (ownCards left).contains = (ownCards right).contains := by
    funext id
    rw [Table.contains, Table.contains, get?_ownCards, get?_ownCards]
    exact isSome_eq_of_rel (lastOfKind?_of_alike alike .card id)
  rw [missingCards, missingCards, sameCards, boardIds_of_alike alike]
  refine congrArg (missingIds _) (filterMap_filter_of_alike alike ?_
    fun _ _ same _ => same.parentCard? _)
  intro block other same
  rw [same.isCard]

/-- The same templates are known for lists that look alike, once the store has answered. -/
theorem templatesFrom_of_alike : templatesFrom left = templatesFrom right := by
  funext fetched
  rw [templatesFrom, templatesFrom, ownTemplates_of_alike alike]

/-- Looking up templates comes to the same for lists that look alike. -/
theorem Server.outcome_templates_of_alike (container : Container) (server : Server MemoryStore) :
    outcome (templates container left) server = outcome (templates container right) server := by
  rw [outcome_templates, outcome_templates, missingRoots_of_alike alike,
    templatesFrom_of_alike alike]

/-! ## How blocks are judged -/

variable (table : BlockTable) (container : Container)

/-- The same roots are templates for lists that look alike. -/
theorem isTemplateRoot_of_alike :
    table.isTemplateRoot container left = table.isTemplateRoot container right := by
  funext root
  rw [isTemplateRoot_eq_getD, isTemplateRoot_eq_getD, ownTemplates_of_alike alike]

/-- A block of one list is withheld exactly if the block that looks like it is withheld of
the other. -/
theorem withholds_of_alike (cutoff : Int64) {block other : Block} (same : block.Alike other) :
    table.withholds container left cutoff block =
      table.withholds container right cutoff other := by
  rw [BlockTable.withholds, BlockTable.withholds, same.isCard, same.updateAt, same.rootId,
    isTemplateRoot_of_alike alike]

/-- The cards that blocks that look alike belong to look alike. -/
theorem cardOf?_of_alike {block other : Block} (same : block.Alike other) :
    Option.Rel Block.Alike (table.cardOf? container left block)
      (table.cardOf? container right other) := by
  cases isCard : block.isCard with
  | true =>
    have kind : block.kind = .card := of_decide_eq_true isCard
    have otherKind : other.kind = .card := same.kind.symm.trans kind
    rw [BlockTable.cardOf?, BlockTable.cardOf?, kind, otherKind, same.id]
    exact lastOfKind?_of_alike alike .card other.id
  | false =>
    rw [cardOf?_of_not_card isCard, cardOf?_of_not_card (same.isCard.symm.trans isCard),
      boardIds_of_alike alike, same.parentCard?]
    cases other.parentCard? (boardIds right) with
    | none => exact .none
    | some id => exact rel_or (lastOfKind?_of_alike alike .card id) (rel_refl Block.Alike.refl _)

/-- Lists that look alike hold withheld cards, or content of such, both or neither. -/
theorem holdsWithheld_of_alike (cutoff : Int64) :
    table.holdsWithheld container left cutoff = table.holdsWithheld container right cutoff := by
  refine any_eq_of_alike alike fun block other same => ?_
  exact any_eq_of_rel (cardOf?_of_alike alike table container same)
    fun card otherCard sameCard => withholds_of_alike alike table container cutoff sameCard

/-! ## The check -/

/-- What is known as a card under an id looks alike for lists that look alike. -/
theorem get?_cardsOf_of_alike (id : String) :
    Option.Rel Block.Alike ((table.cardsOf container left).get? id)
      ((table.cardsOf container right).get? id) := by
  rw [BlockTable.cardsOf, BlockTable.cardsOf, get?_cardsFrom, get?_cardsFrom,
    missingCards_of_alike alike]
  exact rel_or (lastOfKind?_of_alike alike .card id) (rel_refl Block.Alike.refl _)

/-- The known cards of lists that look alike have the same roots. -/
theorem exists_root_of_alike {root : String}
    (rootOfCard : ∃ card ∈ (table.cardsOf container left).values, card.rootId = root) :
    ∃ card ∈ (table.cardsOf container right).values, card.rootId = root := by
  obtain ⟨card, member, rooted⟩ := rootOfCard
  obtain ⟨id, known⟩ := Table.mem_values_iff.mp member
  have both := get?_cardsOf_of_alike alike table container id
  rw [known] at both
  generalize counterpart : (table.cardsOf container right).get? id = found at both
  cases both with
  | @some _ other same =>
    exact ⟨other, Table.mem_values_iff.mpr ⟨id, counterpart⟩, same.rootId.symm.trans rooted⟩

/-- For lists that look alike the check asks for the same roots, up to their order. -/
theorem missingRoots_perm_of_alike {arrange arrangeOther : List Block → List Block}
    (permutes : ∀ cards, (arrange cards).Perm cards)
    (permutesOther : ∀ cards, (arrangeOther cards).Perm cards) :
    (missingRoots (templateInputs arrange left (table.cardsOf container left))).Perm
      (missingRoots (templateInputs arrangeOther right (table.cardsOf container right))) := by
  have flipped : List.Forall₂ Block.Alike right left :=
    List.Forall₂.flip (alike.imp fun _ _ same => same.symm)
  refine (List.perm_ext_iff_of_nodup (nodup_missingRoots _) (nodup_missingRoots _)).mpr ?_
  intro id
  have sameBoards : lastOfKind? .board left id = none ↔ lastOfKind? .board right id = none := by
    rw [← Option.not_isSome_iff_eq_none, ← Option.not_isSome_iff_eq_none,
      isSome_eq_of_rel (lastOfKind?_of_alike alike .board id)]
  rw [mem_missingRoots_templateInputs permutes fun _ member => isCard_of_mem_cardsOf member,
    mem_missingRoots_templateInputs permutesOther fun _ member => isCard_of_mem_cardsOf member,
    sameBoards]
  exact and_congr_left fun _ =>
    ⟨exists_root_of_alike alike table container, exists_root_of_alike flipped table container⟩

/-- The check comes to the same for lists that look alike: the same answer, or the same
failure, after a fetch of the same cards and a fetch of the same roots, these up to their
order. -/
theorem Server.outcome_holdsLimitedArranged_of_alike
    {arrange arrangeOther : List Block → List Block}
    (permutes : ∀ cards, (arrange cards).Perm cards)
    (permutesOther : ∀ cards, (arrangeOther cards).Perm cards) (server : Server MemoryStore) :
    ∃ answer cards roots otherRoots,
      outcome (holdsLimitedArranged arrange container left) server =
        (answer, (server.recordFetch cards).recordFetch roots) ∧
      outcome (holdsLimitedArranged arrangeOther container right) server =
        (answer, (server.recordFetch cards).recordFetch otherRoots) ∧
      roots.Perm otherRoots := by
  by_cases noCutoff : server.store.cutoff = 0
  · rw [outcome_holdsLimitedArranged, outcome_holdsLimitedArranged, if_pos noCutoff,
      if_pos noCutoff]
    exact ⟨.ok false, [], [], [], rfl, rfl, .nil⟩
  · have sameRoots := missingRoots_perm_of_alike alike server.store.blocks container permutes
      permutesOther
    rw [outcome_holdsLimitedArranged_of_cutoff permutes noCutoff,
      outcome_holdsLimitedArranged_of_cutoff permutesOther noCutoff,
      ← missingCards_of_alike alike]
    cases server.store.lookUp container (missingCards left) with
    | error error => exact ⟨.error error, missingCards left, [], [], rfl, rfl, .nil⟩
    | ok fetched =>
      refine ⟨_, missingCards left, _, _, rfl, Prod.ext ?_ rfl, sameRoots⟩
      dsimp only
      rw [MemoryStore.map_lookUp_of_perm server.store container sameRoots,
        holdsWithheld_of_alike alike]

end CardLimits
