import CardLimits.Text.Split
/-!
# Blank characters and the words between them

`isBlank` is the Unicode property White_Space.  Text is cut into words at blanks
and trimmed of them; a word is never empty and never holds a blank.
-/

namespace CardLimits.Text

/-- The 25 code points with the Unicode property White_Space. -/
def isBlank (character : Char) : Bool :=
  let code := character.toNat
  (0x09 ≤ code && code ≤ 0x0D) || code == 0x20 || code == 0x85 || code == 0xA0 ||
    code == 0x1680 || (0x2000 ≤ code && code ≤ 0x200A) || code == 0x2028 ||
    code == 0x2029 || code == 0x202F || code == 0x205F || code == 0x3000

/-- The stretches of a text between its blanks, empty ones included. -/
def stretches : List Char → List (List Char) :=
  split isBlank

/-- The maximal runs of characters that are not blank, from left to right. -/
def words (characters : List Char) : List (List Char) :=
  (stretches characters).filter fun stretch => !stretch.isEmpty

/-- A text without the blanks at its two ends. -/
def trim (characters : List Char) : List Char :=
  ((characters.dropWhile isBlank).reverse.dropWhile isBlank).reverse

end CardLimits.Text
