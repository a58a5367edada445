import CardLimits.Json.Basic
import CardLimits.Json.Lexeme
/-!
# Numbers as they are written

A numeral has a whole part without redundant zeros, an optional fraction and an
optional exponent.  Without the latter two, and within 64 bits, it is an exact
integer; a negative zero and everything else is a double.

The double is not the nearest one.  Only the digits that fit an unsigned 64-bit
significand count; the significand is rounded once, and then multiplied or
divided by powers of ten of at most `1e308`, rounding each time.  A numeral whose
double would be infinite has no value.
-/

namespace CardLimits.Json

/-- The parts of a written number; a missing fraction has no digits. -/
structure Numeral where
  negative : Bool
  whole : List Char
  fraction : List Char
  /-- Whether the exponent is negative, and its digits. -/
  exponent : Option (Bool × List Char)
deriving DecidableEq, Repr

namespace Numeral

/-- A digit is due but another character, or the end of the text, follows.  To skip
such a number it does not matter which. -/
def noDigit (rest : List Char) : Break :=
  ⟨if rest.isEmpty then .endInValue else .badNumber, .badNumber⟩

/-- A run of at least one digit. -/
def scanDigits (text : List Char) : Except Break (List Char × List Char) :=
  let digits := text.takeWhile Char.isDigit
  let rest := text.dropWhile Char.isDigit
  if digits.isEmpty then .error (noDigit rest) else .ok (digits, rest)

/-- The whole part: zero, or digits of which the first is not zero. -/
def scanWhole (text : List Char) : Except Break (List Char × List Char) := do
  let (digits, rest) ← scanDigits text
  if digits.head? = some '0' ∧ digits.length ≠ 1 then
    .error (.both .badNumber)
  else
    .ok (digits, rest)

/-- The fraction behind a decimal point, if there is a point. -/
def scanFraction : List Char → Except Break (List Char × List Char)
  | '.' :: text => scanDigits text
  | text => .ok ([], text)

/-- Whether an exponent has a minus sign, and what follows its sign. -/
def exponentSign : List Char → Bool × List Char
  | '-' :: text => (true, text)
  | '+' :: text => (false, text)
  | text => (false, text)

/-- The exponent, if there is one. -/
def scanExponent : List Char → Except Break (Option (Bool × List Char) × List Char)
  | [] => .ok (none, [])
  | letter :: text =>
    if letter = 'e' ∨ letter = 'E' then do
      let (negative, unsigned) := exponentSign text
      let (digits, rest) ← scanDigits unsigned
      return (some (negative, digits), rest)
    else
      .ok (none, letter :: text)

/-- A numeral without its sign. -/
def scanUnsigned (negative : Bool) (text : List Char) : Except Break (Numeral × List Char) := do
  let (whole, rest) ← scanWhole text
  let (fraction, rest) ← scanFraction rest
  let (exponent, rest) ← scanExponent rest
  return (⟨negative, whole, fraction, exponent⟩, rest)

/-- The longest numeral at the start of a text. -/
def scan : List Char → Except Break (Numeral × List Char)
  | '-' :: text => scanUnsigned true text
  | text => scanUnsigned false text

/-- A run of digits is not empty, so less of the text is left. -/
theorem length_scanDigits_lt {text digits rest : List Char}
    (found : scanDigits text = .ok (digits, rest)) : rest.length < text.length := by
  simp only [scanDigits] at found
  split at found
  · simp at found
  · rename_i nonempty
    simp only [Except.ok.injEq, Prod.mk.injEq] at found
    have parts := congrArg List.length
      (List.takeWhile_append_dropWhile (p := Char.isDigit) (l := text))
    rw [List.length_append, found.1, found.2] at parts
    rw [found.1, List.isEmpty_iff] at nonempty
    have positive := List.length_pos_iff.mpr nonempty
    omega

/-- A fraction may be missing, so no more of the text is left. -/
theorem length_scanFraction_le {text digits rest : List Char}
    (found : scanFraction text = .ok (digits, rest)) : rest.length ≤ text.length := by
  unfold scanFraction at found
  split at found
  · have shorter := length_scanDigits_lt found
    simp only [List.length_cons]
    omega
  · simp only [Except.ok.injEq, Prod.mk.injEq] at found
    simp [found.2]

/-- The sign of an exponent does not lengthen the text. -/
theorem length_exponentSign_le (text : List Char) :
    (exponentSign text).2.length ≤ text.length := by
  unfold exponentSign
  split <;> simp

/-- An exponent may be missing, so no more of the text is left. -/
theorem length_scanExponent_le {text rest : List Char} {exponent : Option (Bool × List Char)}
    (found : scanExponent text = .ok (exponent, rest)) : rest.length ≤ text.length := by
  unfold scanExponent at found
  split at found
  · simp only [Except.ok.injEq, Prod.mk.injEq] at found
    simp [← found.2]
  · rename_i letter after
    split at found
    · cases digitsFound : scanDigits (exponentSign after).2 with
      | error place => simp [digitsFound, bind, Except.bind] at found
      | ok result =>
        simp only [digitsFound, bind, Except.bind, pure, Except.pure, Except.ok.injEq,
          Prod.mk.injEq] at found
        have shorter := length_scanDigits_lt digitsFound
        have signBound := length_exponentSign_le after
        rw [← found.2]
        simp only [List.length_cons]
        omega
    · simp only [Except.ok.injEq, Prod.mk.injEq] at found
      simp [← found.2]

/-- A numeral without its sign is not empty, so less of the text is left. -/
theorem length_scanUnsigned_lt {negative : Bool} {text rest : List Char} {numeral : Numeral}
    (found : scanUnsigned negative text = .ok (numeral, rest)) : rest.length < text.length := by
  simp only [scanUnsigned, scanWhole, bind, Except.bind] at found
  cases wholeFound : scanDigits text with
  | error place => simp [wholeFound] at found
  | ok whole =>
    simp only [wholeFound] at found
    split at found
    · simp at found
    · rename_i checked
      split at checked
      · simp at checked
      · simp only [Except.ok.injEq] at checked
        subst checked
        cases fractionFound : scanFraction whole.2 with
        | error place => simp [fractionFound] at found
        | ok fraction =>
          simp only [fractionFound] at found
          cases exponentFound : scanExponent fraction.2 with
          | error place => simp [exponentFound] at found
          | ok exponent =>
            simp only [exponentFound, pure, Except.pure, Except.ok.injEq, Prod.mk.injEq] at found
            have first := length_scanDigits_lt wholeFound
            have second := length_scanFraction_le fractionFound
            have third := length_scanExponent_le exponentFound
            rw [← found.2]
            omega

/-- A numeral is not empty, so less of the text is left. -/
theorem length_scan_lt {text rest : List Char} {numeral : Numeral}
    (found : scan text = .ok (numeral, rest)) : rest.length < text.length := by
  unfold scan at found
  split at found
  · have shorter := length_scanUnsigned_lt found
    simp only [List.length_cons]
    omega
  · exact length_scanUnsigned_lt found

/-- Whether a character can start a numeral. -/
def starts (character : Char) : Bool :=
  character = '-' || character.isDigit

/-- The value of a digit. -/
def digitValue (digit : Char) : Nat :=
  digit.toNat - '0'.toNat

/-- Appends digits to a significand as long as it fits 64 bits; returns it with
the digits that did not fit. -/
def absorb (significand : Nat) : List Char → Nat × List Char
  | [] => (significand, [])
  | digit :: rest =>
    let longer := 10 * significand + digitValue digit
    if longer < UInt64.size then absorb longer rest else (significand, digit :: rest)

/-- A power of ten up to `1e308` as a double. -/
def tenTo (power : Nat) : Float :=
  Float.ofScientific 1 false power

/-- A double times a power of ten, in steps that a double can express; none when
it becomes infinite. -/
def scale (value : Float) (exponent : Int) : Option Float :=
  if exponent.natAbs ≤ 308 then
    if 0 ≤ exponent then
      let scaled := value * tenTo exponent.natAbs
      if scaled.isInf then none else some scaled
    else
      some (value / tenTo exponent.natAbs)
  else if value == 0 then
    some value
  else if 0 ≤ exponent then
    none
  else
    scale (value / tenTo 308) (exponent + 308)
termination_by exponent.natAbs
decreasing_by omega

/-- The power of ten that an exponent stands for.  One beyond 32 bits is more than
any double can take: it is none when positive. -/
def exponentValue (negative : Bool) (digits : List Char) : Option Int :=
  let magnitude := Nat.ofDigitChars 10 digits 0
  if negative then some (-magnitude)
  else if magnitude ≤ Int32.maxValue.toInt then some magnitude
  else none

/-- The magnitude as a double, or none when it is infinite. -/
def magnitude (numeral : Numeral) : Option Float :=
  let (wholePart, dropped) := absorb 0 numeral.whole
  let (significand, ignored) := absorb wholePart numeral.fraction
  let shift : Int := dropped.length - (numeral.fraction.length - ignored.length : Nat)
  let rounded := (UInt64.ofNat significand).toFloat
  match numeral.exponent with
  | none => scale rounded shift
  | some (negative, digits) =>
    match exponentValue negative digits with
    | some exponent => scale rounded (shift + exponent)
    | none => if significand = 0 then some 0 else none

/-- The exact integer that a numeral stands for, if it stands for one. -/
def integer? (numeral : Numeral) : Option Int :=
  let (significand, dropped) := absorb 0 numeral.whole
  if ¬ numeral.fraction.isEmpty ∨ numeral.exponent.isSome ∨ ¬ dropped.isEmpty then none
  else if ¬ numeral.negative then some significand
  else if significand ≠ 0 ∧ Int64.minValue.toInt ≤ -significand then some (-significand)
  else none

/-- The number that a numeral stands for; none when its double is infinite. -/
def number? (numeral : Numeral) : Option Number :=
  match numeral.integer? with
  | some value => some (.integer value)
  | none => do
    let size ← numeral.magnitude
    return .double (if numeral.negative then -size else size)

/-- The number at the start of a text. -/
def lexeme (numeral : Numeral) : Lexeme Number :=
  match numeral.number? with
  | some value => .value value
  | none => .valueless .numberTooLarge

end Numeral

end CardLimits.Json
