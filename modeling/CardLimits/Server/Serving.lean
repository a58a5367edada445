import CardLimits.Server.Basic
/-!
# Serving blocks within the card limit

A card that was last updated at or before the cutoff is outside the active window
and is served as its limited view, unless its board is a template.  Boards, views
and the content of cards are always served as they are; whether content belongs to
such a card is a question of its own (`Server.holdsLimited`).

Blocks that are needed but not at hand are fetched together: one fetch for the
boards, and one for the cards that content hangs off.
-/

namespace CardLimits

namespace Block

/-- The id of the card that a block hangs off, if its parent is a card at all.  The
parent of a view, or of any other block directly on a board, is the board. -/
def parentCard? (boardIds : List String) (block : Block) : Option String :=
  if block.isBoard || block.kind = .view then none
  else if block.parentId.isEmpty || block.parentId = block.rootId ||
      boardIds.contains block.parentId then none
  else some block.parentId

/-- Whether a block is outside the active window and not on a template board. -/
def isLimited (templates : Table Bool) (cutoff : Int64) (block : Block) : Bool :=
  !(templates.get? block.rootId).getD false && block.isOutside cutoff

/-- A block as it is served. -/
def served (templates : Table Bool) (cutoff : Int64) (block : Block) : Block :=
  if block.isLimited templates cutoff then block.limitedView else block

end Block

/-- The ids that are not empty and not known, each once, in the order in which they
come first. -/
def missingIds (isKnown : String → Bool) (ids : List String) : List String :=
  (ids.filter fun id => !id.isEmpty && !isKnown id).eraseDups

/-- The ids of the boards among some blocks. -/
def boardIds (blocks : List Block) : List String :=
  (blocks.filter Block.isBoard).map Block.id

/-- Which boards among some blocks are templates; of two with one id the later counts. -/
def ownTemplates (blocks : List Block) : Table Bool :=
  .ofList ((blocks.filter Block.isBoard).map fun board => (board.id, board.isTemplate))

/-- The roots of some blocks that are not among their boards. -/
def missingRoots (blocks : List Block) : List String :=
  missingIds (ownTemplates blocks).contains
    ((blocks.filter fun block => !block.isBoard).map Block.rootId)

/-- The cards among some blocks; of two with one id the later counts. -/
def ownCards (blocks : List Block) : Table Block :=
  .ofList ((blocks.filter Block.isCard).map fun card => (card.id, card))

/-- The cards that some blocks hang off and that are not among them. -/
def missingCards (blocks : List Block) : List String :=
  missingIds (ownCards blocks).contains
    ((blocks.filter fun block => !block.isCard).filterMap (Block.parentCard? (boardIds blocks)))

/-- The id of the card that decides about a block: its own if it is one. -/
def decidingCard? (boardIds : List String) (block : Block) : Option String :=
  if block.isCard then some block.id else block.parentCard? boardIds

namespace Server

variable {σ : Type} [Store σ]

/-- Fetches blocks, unless none are asked for. -/
def fetch (container : Container) (ids : List String) : Action (Server σ) (List Block) :=
  if ids.isEmpty then return [] else onStore (Store.blocksByIds container ids)

/-- For every board that the blocks belong to, as far as it exists, whether it is a
template. -/
def templates (container : Container) (blocks : List Block) : Action (Server σ) (Table Bool) := do
  let fetched ← fetch container (missingRoots blocks)
  return (ownTemplates blocks).insertAll
    (fetched.map fun board => (board.id, board.isTemplate))

/-- Every card among the blocks, and every card that they hang off, as far as it
exists. -/
def cards (container : Container) (blocks : List Block) : Action (Server σ) (Table Block) := do
  let fetched ← fetch container (missingCards blocks)
  return (ownCards blocks).insertAll
    ((fetched.filter Block.isCard).map fun card => (card.id, card))

/-- The blocks as they are served, in the same order. -/
def applyLimits (container : Container) (blocks : List Block) : Action (Server σ) (List Block) := do
  if ← isLimited then
    let cutoff ← onStore Store.cutoff
    let templates ← templates container blocks
    return blocks.map (Block.served templates cutoff)
  else
    return blocks

/-- Whether some block is a limited card or belongs to one.  `arrange` puts the
cards into the order in which their boards are asked for. -/
def holdsLimitedArranged (arrange : List Block → List Block) (container : Container)
    (blocks : List Block) : Action (Server σ) Bool := do
  let cutoff ← onStore Store.cutoff
  if cutoff = 0 then return false
  let cards ← cards container blocks
  let templates ← templates container (blocks.filter Block.isBoard ++ arrange cards.values)
  return blocks.any fun block =>
    match (decidingCard? (boardIds blocks) block).bind cards.get? with
    | some card => card.isLimited templates cutoff
    | none => false

/-- Whether some block is a limited card or belongs to one. -/
def holdsLimited (container : Container) (blocks : List Block) : Action (Server σ) Bool :=
  holdsLimitedArranged id container blocks

end Server

end CardLimits
