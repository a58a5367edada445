import CardLimits.Proofs.Lookalikes
/-!
# What a limited view shows and what it hides

A limited view looks like the card that it replaces (`Block.alike_limitedView`), so blocks
that were served are looked up and judged as before, and serving them once more changes
nothing (`served_blocks_settle`).  On the other hand nothing of a withheld card shows except
what its limited view keeps: two lists that differ only in what is dropped from withheld
cards are served alike (`withheld_content_is_hidden`).
-/

namespace CardLimits

namespace Block

/-- The icon of a block is not empty. -/
theorem isEmpty_of_icon? {block : Block} {icon : String} (found : block.icon? = some icon) :
    icon.isEmpty = false := by
  rw [icon?] at found
  split at found
  · split at found
    · cases found
    · rename_i notEmpty
      cases found
      exact Bool.eq_false_iff.mpr notEmpty
  · cases found

/-- The icon field of a limited view is the icon of the block. -/
theorem field?_limitedView (block : Block) :
    block.limitedView.field? iconField = block.icon?.map .string := by
  cases found : block.icon? with
  | none => simp [field?, limitedView, found]
  | some icon => simp [field?, limitedView, found, Table.ofList, Table.insertAll]

/-- A limited view keeps the icon. -/
@[simp]
theorem icon?_limitedView (block : Block) : block.limitedView.icon? = block.icon? := by
  rw [icon?, field?_limitedView]
  cases found : block.icon? with
  | none => rfl
  | some icon => simp [isEmpty_of_icon? found]

/-- Limiting a block twice is limiting it once. -/
@[simp]
theorem limitedView_limitedView (block : Block) :
    block.limitedView.limitedView = block.limitedView := by
  rw [limitedView, icon?_limitedView]
  rfl

/-- A limited view looks like the block, unless that is a board. -/
theorem alike_limitedView {block : Block} (notBoard : block.isBoard = false) :
    block.Alike block.limitedView where
  id := rfl
  kind := rfl
  parentId := rfl
  rootId := rfl
  updateAt := rfl
  isTemplate board := by
    rw [notBoard] at board
    cases board

/-- Only cards are limited. -/
theorem isCard_of_isLimited {templates : Table Bool} {cutoff : Int64} {block : Block}
    (limited : block.isLimited templates cutoff = true) : block.isCard = true := by
  simp only [isLimited, isOutside, Bool.and_eq_true] at limited
  exact limited.2.1.1

/-- A block looks as it did before it was served. -/
theorem alike_served (templates : Table Bool) (cutoff : Int64) (block : Block) :
    block.Alike (block.served templates cutoff) := by
  rw [served]
  split
  · rename_i limited
    exact alike_limitedView (isBoard_of_isCard (isCard_of_isLimited limited))
  · exact .refl block

/-- Serving a block twice is serving it once. -/
theorem served_served (templates : Table Bool) (cutoff : Int64) (block : Block) :
    (block.served templates cutoff).served templates cutoff = block.served templates cutoff := by
  have sameVerdict := (block.alike_served templates cutoff).isLimited templates cutoff
  cases limited : block.isLimited templates cutoff with
  | true =>
    have view : block.served templates cutoff = block.limitedView := by
      rw [served, limited, if_pos rfl]
    rw [limited] at sameVerdict
    rw [served, ← sameVerdict, if_pos rfl, view, limitedView_limitedView]
  | false =>
    rw [limited] at sameVerdict
    rw [served, ← sameVerdict, if_neg Bool.false_ne_true]

end Block

/-! ## Serving what was served -/

section Served

variable {container : Container} {blocks served : List Block} {server : Server MemoryStore}

/-- What was served is the list itself, or on a limited server its blocks one by one, after
the store has answered. -/
theorem of_answer_applyLimits
    (returned : (outcome (Server.applyLimits container blocks) server).1 = .ok served) :
    (server.limitApplies = false ∧ served = blocks) ∨
      (server.limitApplies = true ∧ ∃ fetched,
        server.store.lookUp container (missingRoots blocks) = .ok fetched ∧
        served = blocks.map
          (Block.served (templatesFrom blocks fetched) server.store.cutoff)) := by
  rw [Server.outcome_applyLimits] at returned
  cases applies : server.limitApplies with
  | false =>
    rw [applies] at returned
    cases returned
    exact .inl ⟨rfl, rfl⟩
  | true =>
    rw [applies, if_pos rfl] at returned
    cases answer : server.store.lookUp container (missingRoots blocks) with
    | error error =>
      rw [answer] at returned
      cases returned
    | ok fetched =>
      rw [answer] at returned
      cases returned
      exact .inr ⟨rfl, fetched, rfl, rfl⟩

/-- The blocks of a list look as they did before they were served. -/
theorem alike_of_answer_applyLimits
    (returned : (outcome (Server.applyLimits container blocks) server).1 = .ok served) :
    List.Forall₂ Block.Alike blocks served := by
  rcases of_answer_applyLimits returned with ⟨-, rfl⟩ | ⟨-, fetched, -, rfl⟩
  · exact List.forall₂_same.mpr fun block _ => .refl block
  · rw [List.forall₂_map_right_iff, List.forall₂_same]
    exact fun block _ => block.alike_served _ _

/-- Serving what was served returns it as it is, after the same fetch. -/
theorem outcome_applyLimits_served
    (returned : (outcome (Server.applyLimits container blocks) server).1 = .ok served) :
    outcome (Server.applyLimits container served) server =
      (.ok served, (outcome (Server.applyLimits container blocks) server).2) := by
  have alike := alike_of_answer_applyLimits returned
  rw [Server.outcome_applyLimits, Server.outcome_applyLimits, ← missingRoots_of_alike alike,
    ← templatesFrom_of_alike alike]
  rcases of_answer_applyLimits returned with ⟨unlimited, rfl⟩ | ⟨applies, fetched, answer, rfl⟩
  · rw [unlimited]
    rfl
  · have servedTwice : (blocks.map (Block.served (templatesFrom blocks fetched)
          server.store.cutoff)).map (Block.served (templatesFrom blocks fetched)
            server.store.cutoff) =
        blocks.map (Block.served (templatesFrom blocks fetched) server.store.cutoff) := by
      rw [List.map_map]
      exact List.map_congr_left fun block _ => block.served_served _ _
    rw [applies, if_pos rfl, if_pos rfl, answer]
    exact Prod.ext (congrArg Except.ok servedTwice) rfl

end Served

/-- Serving limits settles, and nothing evaluated later can see it.  What was served is served
once more as it is; its templates are those of the blocks; and the check on it comes to what
the check on the blocks comes to, be that an answer or a failure.  Each of these asks the
store for the same ids, the check for the same cards and then for the same roots, these up to
their order.  What was read in the meantime makes no difference. -/
theorem served_blocks_settle (arrange arrangeServed : List Block → List Block)
    (permutes : ∀ cards, (arrange cards).Perm cards)
    (permutesServed : ∀ cards, (arrangeServed cards).Perm cards) (server : Server MemoryStore)
    (container : Container) (blocks served : List Block)
    (returned : (outcome (Server.applyLimits container blocks) server).1 = .ok served)
    (licenseReads : Nat) (fetches : List (List String)) :
    let later := server.withTraces licenseReads fetches
    outcome (Server.applyLimits container served) later =
        (.ok served, (outcome (Server.applyLimits container blocks) later).2) ∧
      outcome (Server.templates container served) later =
        outcome (Server.templates container blocks) later ∧
      ∃ answer cards roots rootsServed,
        outcome (Server.holdsLimitedArranged arrange container blocks) later =
          (answer, (later.recordFetch cards).recordFetch roots) ∧
        outcome (Server.holdsLimitedArranged arrangeServed container served) later =
          (answer, (later.recordFetch cards).recordFetch rootsServed) ∧
        roots.Perm rootsServed := by
  intro later
  have alike := alike_of_answer_applyLimits returned
  have returnedLater : (outcome (Server.applyLimits container blocks) later).1 = .ok served :=
    (Server.answer_applyLimits_withTraces container blocks licenseReads fetches server).trans
      returned
  refine ⟨outcome_applyLimits_served returnedLater, ?_, ?_⟩
  · exact (Server.outcome_templates_of_alike alike container later).symm
  · exact Server.outcome_holdsLimitedArranged_of_alike alike container permutes permutesServed
      later

/-- On the sample server two copies of a withheld card and a card on the template settle. -/
theorem served_blocks_settle_sampleServer :
    (∀ cards : List Block, cards.reverse.Perm cards) ∧
      (outcome (Server.applyLimits ⟨"0"⟩ [oldCard "first" "board", oldCard "first" "board",
          oldCard "second" "template"]) sampleServer).1 =
        .ok [(oldCard "first" "board").limitedView, (oldCard "first" "board").limitedView,
          oldCard "second" "template"] ∧
      (outcome (Server.applyLimits ⟨"0"⟩ [(oldCard "first" "board").limitedView,
          (oldCard "first" "board").limitedView, oldCard "second" "template"]) sampleServer).1 =
        .ok [(oldCard "first" "board").limitedView, (oldCard "first" "board").limitedView,
          oldCard "second" "template"] ∧
      (outcome (Server.holdsLimitedArranged List.reverse ⟨"0"⟩
          [(oldCard "first" "board").limitedView, (oldCard "first" "board").limitedView,
            oldCard "second" "template"]) sampleServer).1 =
        (outcome (Server.holdsLimitedArranged id ⟨"0"⟩ [oldCard "first" "board",
          oldCard "first" "board", oldCard "second" "template"]) sampleServer).1 := by
  have returned : (outcome (Server.applyLimits ⟨"0"⟩ [oldCard "first" "board",
      oldCard "first" "board", oldCard "second" "template"]) sampleServer).1 =
        .ok [(oldCard "first" "board").limitedView, (oldCard "first" "board").limitedView,
          oldCard "second" "template"] :=
    (Server.answer_applyLimits rfl rfl _ _).trans rfl
  obtain ⟨again, -, answer, cards, roots, rootsServed, check, checkServed, -⟩ :=
    served_blocks_settle id List.reverse (fun cards => .refl cards) List.reverse_perm
      sampleServer ⟨"0"⟩ _ _ returned sampleServer.store.licenseReads sampleServer.store.fetches
  exact ⟨List.reverse_perm, returned, congrArg Prod.fst again,
    (congrArg Prod.fst checkServed).trans (congrArg Prod.fst check).symm⟩

/-! ## What a limited view hides -/

/-- Whether two cards differ only in what their limited views drop: in the free fields apart
from the icon, and in the mark. -/
structure Block.SameView (left right : Block) : Prop where
  isCard : left.isCard = true
  icon : left.icon? = right.icon?
  rest : { left with fields := none, limited := false } =
    { right with fields := none, limited := false }

namespace Block.SameView

variable {left right : Block}

/-- Cards that differ only in what is dropped look alike. -/
theorem alike (same : left.SameView right) : left.Alike right := by
  have rest := same.rest
  rw [Block.mk.injEq] at rest
  obtain ⟨id, parentId, rootId, -, -, -, kind, -, -, -, updateAt, -⟩ := rest
  refine { id, kind, parentId, rootId, updateAt, isTemplate := fun board => ?_ }
  rw [isBoard_of_isCard same.isCard] at board
  cases board

/-- Cards that differ only in what is dropped have one limited view. -/
theorem limitedView_eq (same : left.SameView right) : left.limitedView = right.limitedView := by
  have dropped := congrArg (fun block : Block => { block with
    fields := right.icon?.map fun icon => Table.ofList [(iconField, .string icon)]
    limited := true }) same.rest
  rw [limitedView, same.icon]
  exact dropped

end Block.SameView

/-- Cards that differ only in what is dropped are served alike if the first one is limited. -/
theorem served_eq_of_sameView {left right : Block} (same : left.SameView right)
    {templates : Table Bool} {cutoff : Int64} (limited : left.isLimited templates cutoff = true) :
    left.served templates cutoff = right.served templates cutoff := by
  rw [Block.served, Block.served, ← same.alike.isLimited, limited, if_pos rfl, if_pos rfl,
    same.limitedView_eq]

/-- Nothing shows of what is dropped from a withheld card.  Take two lists that are the same
at each place, or have two cards there that differ only in what is dropped and of which the
first is withheld, as far as the first list is served at all.  Serving them comes to the same
on a limited server: the same blocks or the same failure, after the same fetch. -/
theorem withheld_content_is_hidden (server : Server MemoryStore) (limited : server.cardLimit ≠ 0)
    (cloud : server.store.license.any License.isCloud = true) (container : Container)
    (first second : List Block)
    (same : List.Forall₂ (fun left right => left = right ∨ left.SameView right ∧
      ∀ served, (outcome (Server.applyLimits container first) server).1 = .ok served →
        server.store.blocks.withholds container first server.store.cutoff left = true)
      first second) :
    outcome (Server.applyLimits container first) server =
      outcome (Server.applyLimits container second) server := by
  have applies : server.limitApplies = true := Server.limitApplies_iff.mpr ⟨limited, cloud⟩
  have alike : List.Forall₂ Block.Alike first second := by
    refine same.imp fun left right either => ?_
    rcases either with rfl | ⟨sameView, -⟩
    · exact .refl left
    · exact sameView.alike
  have sameFetch := missingRoots_of_alike alike
  have sameTemplates := templatesFrom_of_alike alike
  rw [Server.outcome_applyLimits, Server.outcome_applyLimits, applies, if_pos rfl, if_pos rfl,
    ← sameFetch, ← sameTemplates]
  refine Prod.ext ?_ rfl
  cases answer : server.store.lookUp container (missingRoots first) with
  | error error => rfl
  | ok fetched =>
    obtain ⟨answers, rfl⟩ := MemoryStore.lookUp_eq_ok_iff.mp answer
    have returned : (outcome (Server.applyLimits container first) server).1 = .ok _ :=
      (Server.answer_applyLimits_eq_ok_iff applies).mpr ⟨answers, rfl⟩
    have placed := (List.forall₂_and_left first second).mpr ⟨fun block member => member, same⟩
    let serve := Block.served (server.store.blocks.templatesOf container first)
      server.store.cutoff
    have sameBlocks : List.Forall₂ (· = ·) (first.map serve) (second.map serve) := by
      rw [List.forall₂_map_left_iff, List.forall₂_map_right_iff]
      refine placed.imp fun left right here => ?_
      obtain ⟨member, rfl | ⟨sameView, withheld⟩⟩ := here
      · rfl
      · exact served_eq_of_sameView sameView
          ((isLimited_templatesOf member).trans (withheld _ returned))
    rw [List.forall₂_eq_eq_eq] at sameBlocks
    exact congrArg Except.ok sameBlocks

/-- A card on a plain board with an icon and a note, perhaps marked as a template. -/
def notedCard (note : Json) (template : Bool) : Block :=
  ((oldCard "noted" "board").withField "note" note).withField Block.templateField (.bool template)

/-- On the sample server, neither the note nor a template mark of a withheld card shows. -/
theorem withheld_content_is_hidden_sampleServer :
    sampleServer.cardLimit ≠ 0 ∧ sampleServer.store.license.any License.isCloud = true ∧
      (notedCard (.string "first") false).SameView (notedCard .null true) ∧
      sampleServer.store.blocks.withholds ⟨"0"⟩
        [notedCard (.string "first") false, oldCard "second" "template"] 150
        (notedCard (.string "first") false) = true ∧
      outcome (Server.applyLimits ⟨"0"⟩
          [notedCard (.string "first") false, oldCard "second" "template"]) sampleServer =
        outcome (Server.applyLimits ⟨"0"⟩
          [notedCard .null true, oldCard "second" "template"]) sampleServer := by
  have sameView : (notedCard (.string "first") false).SameView (notedCard .null true) :=
    { isCard := rfl, icon := rfl, rest := rfl }
  refine ⟨by decide, rfl, sameView, rfl, ?_⟩
  exact withheld_content_is_hidden sampleServer (by decide) rfl ⟨"0"⟩ _ _
    (.cons (.inr ⟨sameView, fun _ _ => rfl⟩) (.cons (.inl rfl) .nil))

end CardLimits
