import CardLimits.Text.Split
/-!
# Names of hosts

The name of a host is one or more labels between points, and there may be a point
behind the last.  A label has one to sixty-three characters, which are ASCII letters
and digits, hyphens and underscores.  A name does not start with a hyphen and has at
most 253 characters.  A point alone is the name of the root.
-/

namespace CardLimits.Text

/-- Whether a label may have a character. -/
def isLabelCharacter (character : Char) : Bool :=
  character.isAlphanum || character = '-' || character = '_'

/-- Whether a text is a label of a name. -/
def isLabel (text : List Char) : Bool :=
  !text.isEmpty && text.length ≤ 63 && text.all isLabelCharacter

/-- Whether a text is the name of a host. -/
def isHostName (text : List Char) : Bool :=
  let name := if text.getLast? = some '.' then text.dropLast else text
  text = ['.'] ||
    name.head? ≠ some '-' && name.length ≤ 253 && (split (· = '.') name).all isLabel

end CardLimits.Text
