/-!
# The shortest decimal that reads back as a given double

A finite double is a significand times a power of two.  Every real number closer
to it than to any other double rounds to it, and so do the two midpoints when its
significand is even.  `Binary.shortest` returns a decimal of that interval with
the fewest digits; among those the one nearest to the double, and of two equally
near ones the one with the even last digit.  All comparisons are between natural
numbers, so nothing is rounded on the way.
-/

namespace CardLimits

/-- A positive number `digits * 10 ^ exponent`. -/
structure Decimal where
  digits : Nat
  exponent : Int
deriving DecidableEq, Repr

namespace Decimal

/-- A positive number `significand * 2 ^ exponent` as a double holds it. -/
structure Binary where
  significand : Nat
  exponent : Int
  /-- Whether the next smaller double lies at half the distance of the next larger one. -/
  narrowBelow : Bool
deriving DecidableEq, Repr

/-- The magnitude of a finite double; zero has significand zero. -/
def Binary.ofFloat (value : Float) : Binary :=
  let bits := value.toBits.toNat
  let field : Nat := bits >>> 52 % (1 <<< 11)
  let fraction : Nat := bits % (1 <<< 52)
  if field = 0 then
    { significand := fraction, exponent := -1074, narrowBelow := false }
  else
    { significand := 1 <<< 52 + fraction, exponent := (field : Int) - 1075
      narrowBelow := fraction = 0 && 1 < field }

/-- Whether the sign bit of a double is set. -/
def isNegative (value : Float) : Bool :=
  value.toBits >>> 63 = 1

/-- A nonnegative fraction, compared by cross multiplication. -/
structure Ratio where
  numerator : Nat
  denominator : Nat

/-- `count * base ^ exponent` as a fraction. -/
def Ratio.scaled (count base : Nat) (exponent : Int) : Ratio :=
  match exponent with
  | .ofNat power => ⟨count * base.pow power, 1⟩
  | .negSucc power => ⟨count, base.pow (power + 1)⟩

/-- Whether one fraction is smaller than another. -/
def Ratio.lessThan (left right : Ratio) : Bool :=
  left.numerator * right.denominator < right.numerator * left.denominator

/-- Whether one fraction is at most another. -/
def Ratio.atMost (left right : Ratio) : Bool :=
  left.numerator * right.denominator ≤ right.numerator * left.denominator

/-- The integer part of a fraction divided by another. -/
def Ratio.quotient (left right : Ratio) : Nat :=
  (left.numerator * right.denominator) / (left.denominator * right.numerator)

namespace Binary

/-- A number of quarter steps around the double, as a fraction. -/
def quarters (binary : Binary) (count : Nat) : Ratio :=
  .scaled count 2 (binary.exponent - 2)

/-- The exact value. -/
def value (binary : Binary) : Ratio :=
  binary.quarters (4 * binary.significand)

/-- Whether a decimal rounds to the double. -/
def covers (binary : Binary) (candidate : Decimal) : Bool :=
  let point := Ratio.scaled candidate.digits 10 candidate.exponent
  let below := binary.quarters (4 * binary.significand - if binary.narrowBelow then 1 else 2)
  let above := binary.quarters (4 * binary.significand + 2)
  if binary.significand % 2 = 0 then below.atMost point && point.atMost above
  else below.lessThan point && point.lessThan above

/-- The exponent of the leading decimal digit. -/
def leadingExponent (binary : Binary) : Int :=
  let exact := binary.value
  if exact.denominator ≤ exact.numerator then
    (Nat.toDigits 10 (exact.numerator / exact.denominator)).length - 1
  else
    -((Nat.toDigits 10 ((exact.denominator - 1) / exact.numerator)).length : Int)

/-- The best decimal on the grid of multiples of `10 ^ exponent`, if one rounds to
the double. -/
def onGrid? (binary : Binary) (exponent : Int) : Option Decimal :=
  let lower : Decimal := ⟨binary.value.quotient (.scaled 1 10 exponent), exponent⟩
  let upper : Decimal := ⟨lower.digits + 1, exponent⟩
  let middle := Ratio.scaled (2 * lower.digits + 1) 10 exponent
  let doubled := binary.quarters (8 * binary.significand)
  let lowerNearer := doubled.lessThan middle ||
    (doubled.atMost middle && lower.digits % 2 = 0)
  match binary.covers lower, binary.covers upper with
  | true, true => some (if lowerNearer then lower else upper)
  | true, false => some lower
  | false, true => some upper
  | false, false => none

/-- The decimal with the fewest digits that rounds to a positive double.  Seventeen
digits always suffice. -/
def shortest (binary : Binary) : Decimal :=
  let leading := binary.leadingExponent
  match (List.range 17).findSome? fun further : Nat =>
      binary.onGrid? (leading - (further : Int)) with
  | some decimal => decimal
  | none => ⟨binary.value.quotient (.scaled 1 10 (leading - 16)), leading - 16⟩

end Binary

/-- The same number without trailing zero digits. -/
def stripped (decimal : Decimal) : Decimal :=
  if decimal.digits ≠ 0 ∧ decimal.digits % 10 = 0 then
    stripped ⟨decimal.digits / 10, decimal.exponent + 1⟩
  else decimal
termination_by decimal.digits
decreasing_by omega

end Decimal

end CardLimits
