import CardLimits.Decimal.Shortest
import CardLimits.Json.Basic
/-!
# Writing JSON

A value has two written forms.  The compact one has no white space at all; the
spread one puts every item and member on a line of its own, two blanks deeper
than what holds it, and writes an empty array or object as `[]` or `{}`.

A string escapes the quotation mark, the backslash and the control characters
below U+0020, and nothing else.  A double is written with the fewest digits that
read back: positionally when its leading digit stands for a power of ten from
-5 to 15, always with a fraction then, and otherwise with an exponent, which has a
sign in either case.
-/

namespace CardLimits.Json

open CardLimits.Decimal

/-- The four lower-case hexadecimal digits of a code unit. -/
def hexQuad (code : Nat) : List Char :=
  [code / 4096, code / 256, code / 16, code].map fun shifted => Nat.digitChar (shifted % 16)

/-- A character as it stands in a written string. -/
def escapeChar (character : Char) : List Char :=
  match character with
  | '"' => ['\\', '"']
  | '\\' => ['\\', '\\']
  | '\n' => ['\\', 'n']
  | '\r' => ['\\', 'r']
  | '\t' => ['\\', 't']
  | '\x08' => ['\\', 'b']
  | '\x0c' => ['\\', 'f']
  | other => if other.toNat < 0x20 then '\\' :: 'u' :: hexQuad other.toNat else [other]

/-- A string between quotation marks. -/
def quote (text : String) : List Char :=
  '"' :: text.toList.flatMap escapeChar ++ ['"']

/-- An integer in decimal, with a sign only when negative. -/
def integerText : Int → List Char
  | .ofNat value => Nat.toDigits 10 value
  | .negSucc value => '-' :: Nat.toDigits 10 (value + 1)

/-- Where positional notation of a double ends: the decimal point may stand up to
four zeros before the first digit and up to sixteen digits after its start. -/
def isPositional (point : Int) : Bool :=
  -5 < point && point ≤ 16

/-- The exponent of a double that is not written positionally, after the letter for
it.  It is never zero, and a positive one has a plus sign. -/
def exponentText (exponent : Int) : List Char :=
  if exponent < 0 then integerText exponent else '+' :: integerText exponent

/-- The text of a positive decimal. -/
def decimalText (decimal : Decimal) : List Char :=
  let digits := Nat.toDigits 10 decimal.digits
  let point := (digits.length : Int) + decimal.exponent
  if isPositional point then
    if 0 ≤ decimal.exponent then
      digits ++ List.replicate decimal.exponent.toNat '0' ++ ['.', '0']
    else if 0 < point then
      digits.take point.toNat ++ '.' :: digits.drop point.toNat
    else
      '0' :: '.' :: List.replicate (-point).toNat '0' ++ digits
  else
    let fraction := if digits.length = 1 then [] else '.' :: digits.drop 1
    digits.take 1 ++ fraction ++ 'e' :: exponentText (point - 1)

/-- The text of a finite double. -/
def doubleText (value : Float) : List Char :=
  let binary := Binary.ofFloat value
  let magnitude :=
    if binary.significand = 0 then ['0', '.', '0']
    else decimalText binary.shortest.stripped
  if isNegative value then '-' :: magnitude else magnitude

/-- The text of a number. -/
def Number.text : Number → List Char
  | .integer value => integerText value
  | .double value => doubleText value

/-- Items with a separator between each two. -/
def separated (separator : List Char) : List (List Char) → List Char
  | [] => []
  | [item] => item
  | item :: rest => item ++ separator ++ separated separator rest

/-- The compact form. -/
def compact : Json → List Char
  | .null => ['n', 'u', 'l', 'l']
  | .bool true => ['t', 'r', 'u', 'e']
  | .bool false => ['f', 'a', 'l', 's', 'e']
  | .number value => value.text
  | .string text => quote text
  | .array items => '[' :: separated [','] (itemTexts items) ++ [']']
  | .object members => '{' :: separated [','] (memberTexts members) ++ ['}']
where
  itemTexts : List Json → List (List Char)
    | [] => []
    | item :: rest => item.compact :: itemTexts rest
  memberTexts : List (String × Json) → List (List Char)
    | [] => []
    | (name, value) :: rest => (quote name ++ ':' :: value.compact) :: memberTexts rest

/-- The start of a line at a level of nesting. -/
def newLine (level : Nat) : List Char :=
  '\n' :: List.replicate (2 * level) ' '

/-- What stands between two brackets in the spread form. -/
def spreadBetween (level : Nat) (opening closing : Char) (parts : List (List Char)) : List Char :=
  if parts.isEmpty then [opening, closing]
  else opening :: newLine (level + 1) ++ separated (',' :: newLine (level + 1)) parts ++
    newLine level ++ [closing]

/-- The spread form of a value that stands at a level of nesting. -/
def spread (level : Nat) : Json → List Char
  | .array items => spreadBetween level '[' ']' (itemTexts (level + 1) items)
  | .object members => spreadBetween level '{' '}' (memberTexts (level + 1) members)
  | scalar => scalar.compact
where
  itemTexts (level : Nat) : List Json → List (List Char)
    | [] => []
    | item :: rest => item.spread level :: itemTexts level rest
  memberTexts (level : Nat) : List (String × Json) → List (List Char)
    | [] => []
    | (name, value) :: rest =>
      (quote name ++ ':' :: ' ' :: value.spread level) :: memberTexts level rest

/-- The compact form as a string. -/
def toCompactString (value : Json) : String :=
  String.ofList value.compact

/-- The spread form as a string. -/
def toSpreadString (value : Json) : String :=
  String.ofList (value.spread 0)

end CardLimits.Json
