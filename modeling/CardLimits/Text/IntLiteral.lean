/-!
# Integers written in decimal

An integer literal is an optional sign followed by at least one ASCII digit and
nothing else: no blanks, no separators, no other base.  Leading zeros are allowed.
-/

namespace CardLimits.Text

/-- The value of a run of ASCII digits, or none if the run is empty or holds
another character. -/
def digitsValue? (characters : List Char) : Option Nat :=
  if !characters.isEmpty && characters.all Char.isDigit then
    some (Nat.ofDigitChars 10 characters 0)
  else
    none

/-- An integer literal with an optional sign of either kind. -/
def intLiteral? : List Char → Option Int
  | '-' :: digits => (digitsValue? digits).map fun value => -(value : Int)
  | '+' :: digits => (digitsValue? digits).map fun value => (value : Int)
  | digits => (digitsValue? digits).map fun value => (value : Int)

/-- Why a text is no literal of a natural number below a bound. -/
inductive NatLiteralFault where
  | empty
  | invalidDigit
  | tooLarge
deriving DecidableEq, Repr

/-- The wording of a fault. -/
def NatLiteralFault.message : NatLiteralFault → String
  | empty => "cannot parse integer from empty string"
  | invalidDigit => "invalid digit found in string"
  | tooLarge => "number too large to fit in target type"

/-- Appends digits to a number below a bound, from left to right. -/
def appendDigits (bound value : Nat) : List Char → Except NatLiteralFault Nat
  | [] => .ok value
  | character :: rest =>
    if character.isDigit then
      let longer := 10 * value + (character.toNat - '0'.toNat)
      if longer < bound then appendDigits bound longer rest else .error .tooLarge
    else .error .invalidDigit

/-- A literal of a natural number below a bound: the only sign it may carry is a plus. -/
def natLiteral (bound : Nat) : List Char → Except NatLiteralFault Nat
  | [] => .error .empty
  | ['+'] => .error .invalidDigit
  | '+' :: digits => appendDigits bound 0 digits
  | digits => appendDigits bound 0 digits

/-- A literal of a 32-bit signed integer; a value out of range is refused. -/
def int32Literal? (text : String) : Option Int32 := do
  let value ← intLiteral? text.toList
  if Int32.minValue.toInt ≤ value ∧ value ≤ Int32.maxValue.toInt then some (Int32.ofInt value)
  else none

/-- A literal of a 32-bit unsigned integer; a value out of range is refused. -/
def uint32Literal? (text : String) : Option UInt32 :=
  (natLiteral UInt32.size text.toList).toOption.map UInt32.ofNat

/-- A literal of a 64-bit unsigned integer; a value out of range is refused. -/
def uint64Literal? (text : String) : Option UInt64 :=
  (natLiteral UInt64.size text.toList).toOption.map UInt64.ofNat

end CardLimits.Text
