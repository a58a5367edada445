import CardLimits.Json.Token
/-!
# Texts as trees

A text is read from left to right and the first thing wrong with it is reported;
what counts as wrong depends on who reads.  A reader that wants a number refuses
a string at once, whatever comes after the string.  So a text is first made into
a tree that keeps the place where it breaks off, and a reader that walks the tree
from left to right meets the break exactly where it would meet it in the text.

`Tree.ofTokens` builds the tree of every list of tokens.  It goes through the
tokens once, keeping the arrays and objects that are still open on a stack.
-/

namespace CardLimits.Json

/-- A place where an array or object breaks off between its items or members, and
what is then reported. -/
structure Gap where
  /-- By a reader that takes any number of items or members. -/
  further : Fault
  /-- By a reader that has all that it takes and wants the closing bracket. -/
  closing : Fault
  /-- By one that passes over the array or object. -/
  skipping : Fault
deriving DecidableEq, Repr

/-- A gap that everyone reports alike. -/
def Gap.alike (fault : Fault) : Gap :=
  ⟨fault, fault, fault⟩

/-- How the items of an array or the members of an object end. -/
inductive Ending where
  | closed
  | unclosed (gap : Gap)
deriving DecidableEq, Repr

/-- A text as a tree, as far as it goes. -/
inductive Tree where
  | quoted (text : Lexeme String)
  | bare (content : Lexeme Bare)
  | array (items : List Tree) (ending : Ending)
  | object (members : List (Lexeme String × Tree)) (ending : Ending)
  /-- The place of a value that is not there. -/
  | missing (fault : Fault)
deriving Repr

/-- The fault of an ending, for a reader that takes any number of items or members. -/
def Ending.check : Ending → Except Fault Unit
  | closed => .ok ()
  | unclosed gap => .error gap.further

/-- The fault of an ending, for a reader that wants the closing bracket. -/
def Ending.checkLast : Ending → Except Fault Unit
  | closed => .ok ()
  | unclosed gap => .error gap.closing

/-- The fault of an ending, for one that passes over the array or object. -/
def Ending.skip : Ending → Except Fault Unit
  | closed => .ok ()
  | unclosed gap => .error gap.skipping

namespace Tree

/-- Passes over a value without reading it.  Nesting is not limited. -/
def skip : Tree → Except Fault Unit
  | quoted text => text.skip
  | bare content => content.skip
  | array items ending => do
    skipItems items
    ending.skip
  | object members ending => do
    skipMembers members
    ending.skip
  | missing fault => .error fault
where
  skipItems : List Tree → Except Fault Unit
    | [] => .ok ()
    | item :: rest => do
      item.skip
      skipItems rest
  skipMembers : List (Lexeme String × Tree) → Except Fault Unit
    | [] => .ok ()
    | (name, value) :: rest => do
      name.skip
      value.skip
      skipMembers rest

/-- An array or object that is still open, the newest item or member first. -/
inductive Frame where
  | array (items : List Tree)
  | object (members : List (Lexeme String × Tree)) (name : Lexeme String)

/-- Where a text stands between two tokens, inside the open frames. -/
inductive Place where
  /-- A value is due. -/
  | value (frames : List Frame)
  | firstItem (frames : List Frame)
  | afterItem (items : List Tree) (frames : List Frame)
  | firstName (frames : List Frame)
  | laterName (members : List (Lexeme String × Tree)) (frames : List Frame)
  | afterName (members : List (Lexeme String × Tree)) (name : Lexeme String)
      (frames : List Frame)
  | afterMember (members : List (Lexeme String × Tree)) (frames : List Frame)
  | finished (tree : Tree)

/-- The place after a complete value. -/
def Place.after (tree : Tree) : List Frame → Place
  | [] => .finished tree
  | .array items :: frames => .afterItem (tree :: items) frames
  | .object members name :: frames => .afterMember ((name, tree) :: members) frames

/-- The place after the first token of a value, if the token can be that. -/
def Place.start (frames : List Frame) : Token → Option Place
  | .quoted text => some (.after (.quoted text) frames)
  | .bare content => some (.after (.bare content) frames)
  | .openArray => some (.firstItem frames)
  | .openObject => some (.firstName frames)
  | _ => none

/-- The place after a token, if the token may stand at the place before. -/
def Place.advance : Place → Token → Option Place
  | .value frames, token => Place.start frames token
  | .firstItem frames, .closeArray => some (.after (.array [] .closed) frames)
  | .firstItem frames, token => Place.start (.array [] :: frames) token
  | .afterItem items frames, .comma => some (.value (.array items :: frames))
  | .afterItem items frames, .closeArray => some (.after (.array items.reverse .closed) frames)
  | .firstName frames, .closeObject => some (.after (.object [] .closed) frames)
  | .firstName frames, .quoted name => some (.afterName [] name frames)
  | .laterName members frames, .quoted name => some (.afterName members name frames)
  | .afterName members name frames, .colon => some (.value (.object members name :: frames))
  | .afterMember members frames, .comma => some (.laterName members frames)
  | .afterMember members frames, .closeObject =>
    some (.after (.object members.reverse .closed) frames)
  | _, _ => none

/-- The whole tree when the text breaks off inside a value.  The frames around it
are never looked at behind it. -/
def breakOff (tree : Tree) : List Frame → Tree
  | [] => tree
  | .array items :: frames =>
    breakOff (.array (tree :: items).reverse (.unclosed (.alike .endInArray))) frames
  | .object members name :: frames =>
    breakOff (.object ((name, tree) :: members).reverse (.unclosed (.alike .endInObject))) frames

/-- The fault of finding a token, or the end of the text, in place of a value. -/
def valueFault : Option Token → Fault
  | none => .endInValue
  | some _ => .noValue

/-- The fault of finding a token, or the end of the text, in place of a colon. -/
def colonFault : Option Token → Fault
  | none => .endInObject
  | some _ => .noColon

/-- The gap at the start of an array. -/
def firstItemGap : Option Token → Gap
  | none => .alike .endInArray
  | some _ => ⟨.noValue, .trailingText, .noValue⟩

/-- The gap after an item of an array. -/
def afterItemGap : Option Token → Gap
  | none => .alike .endInArray
  | some _ => ⟨.noItemEnd, .trailingText, .noItemEnd⟩

/-- The gap after a comma in an array.  The comma is what a reader refuses that wants
the closing bracket, even at the end of the text. -/
def laterItemGap : Option Token → Gap
  | none => ⟨.endInValue, .trailingText, .endInValue⟩
  | some .closeArray => ⟨.trailingComma, .trailingComma, .noValue⟩
  | some _ => ⟨.noValue, .trailingText, .noValue⟩

/-- The gap at the start of an object. -/
def firstNameGap : Option Token → Gap
  | none => .alike .endInObject
  | some _ => .alike .noName

/-- The gap after a member of an object. -/
def afterMemberGap : Option Token → Gap
  | none => .alike .endInObject
  | some _ => ⟨.noMemberEnd, .trailingText, .noMemberEnd⟩

/-- The gap after a comma in an object, which again is what a reader refuses that
wants the closing bracket. -/
def laterNameGap : Option Token → Gap
  | none => ⟨.endInValue, .trailingComma, .endInObject⟩
  | some .closeObject => ⟨.trailingComma, .trailingComma, .noName⟩
  | some _ => ⟨.noName, .trailingComma, .noName⟩

/-- The whole tree when the text breaks off at a place, before the token found there. -/
def Place.stop (found : Option Token) : Place → Tree
  | .value [] => .missing (valueFault found)
  | .value (.array items :: frames) =>
    breakOff (.array items.reverse (.unclosed (laterItemGap found))) frames
  | .value (.object members name :: frames) =>
    breakOff (.missing (valueFault found)) (.object members name :: frames)
  | .firstItem frames => breakOff (.array [] (.unclosed (firstItemGap found))) frames
  | .afterItem items frames =>
    breakOff (.array items.reverse (.unclosed (afterItemGap found))) frames
  | .firstName frames => breakOff (.object [] (.unclosed (firstNameGap found))) frames
  | .laterName members frames =>
    breakOff (.object members.reverse (.unclosed (laterNameGap found))) frames
  | .afterName members name frames =>
    breakOff (.missing (colonFault found)) (.object members name :: frames)
  | .afterMember members frames =>
    breakOff (.object members.reverse (.unclosed (afterMemberGap found))) frames
  | .finished tree => tree

/-- Builds the tree from a place on; also returns the tokens behind it. -/
def buildFrom : Place → List Token → Tree × List Token
  | .finished tree, rest => (tree, rest)
  | place, [] => (place.stop none, [])
  | place, token :: rest =>
    match place.advance token with
    | some next => buildFrom next rest
    | none => (place.stop (some token), [])

/-- The tree that the tokens start with, and the tokens behind it. -/
def ofTokens (tokens : List Token) : Tree × List Token :=
  buildFrom (.value []) tokens

end Tree

end CardLimits.Json
