import CardLimits.Text.Blank
import CardLimits.Text.IntLiteral
import Mathlib.Data.List.TakeWhile
/-!
# What literals are

A literal of a number is a run of digits, perhaps behind a sign (`NatLiteral`, `IntLiteral`).
The readers of literals of a width accept exactly the literals whose number is in range
(`int32Literal?_eq_some_iff`, `uint32Literal?_eq_some_iff`, `uint64Literal?_eq_some_iff`).  A
literal holds no blank, so it is what remains of a text when the blanks around it are trimmed
(`intLiteral_trim_iff`).
-/

namespace CardLimits.Text

/-! ## Literals -/

/-- Digits, and the number that they stand for. -/
structure Digits (digits : List Char) (value : Nat) : Prop where
  nonempty : digits ≠ []
  digital : ∀ digit ∈ digits, digit.isDigit = true
  stands : Nat.ofDigitChars 10 digits 0 = value

/-- A literal of a natural number: digits, perhaps behind a plus sign. -/
inductive NatLiteral : List Char → Nat → Prop
  | plain {digits : List Char} {value : Nat} (number : Digits digits value) :
      NatLiteral digits value
  | plus {digits : List Char} {value : Nat} (number : Digits digits value) :
      NatLiteral ('+' :: digits) value

/-- A literal of an integer: one of a natural number, or digits behind a minus sign. -/
inductive IntLiteral : List Char → Int → Prop
  | natural {text : List Char} {value : Nat} (literal : NatLiteral text value) :
      IntLiteral text value
  | minus {digits : List Char} {value : Nat} (number : Digits digits value) :
      IntLiteral ('-' :: digits) (-value)

/-- Digits start with no sign. -/
theorem Digits.head_ne {first : Char} {later : List Char} {value : Nat}
    (digits : Digits (first :: later) value) {sign : Char} (noDigit : sign.isDigit = false) :
    first ≠ sign := by
  rintro rfl
  have digit := digits.digital first (List.mem_cons_self ..)
  rw [noDigit] at digit
  cases digit

/-- What digits stand for is read off them. -/
theorem digitsValue?_eq_some_iff {text : List Char} {value : Nat} :
    digitsValue? text = some value ↔ Digits text value := by
  simp only [digitsValue?, Option.ite_none_right_eq_some, Bool.and_eq_true, Bool.not_eq_true',
    List.isEmpty_eq_false_iff, List.all_eq_true, Option.some.injEq]
  constructor
  · rintro ⟨⟨nonempty, digital⟩, stands⟩
    exact ⟨nonempty, digital, stands⟩
  · rintro ⟨nonempty, digital, stands⟩
    exact ⟨⟨nonempty, digital⟩, stands⟩

/-- What is computed from digits as an integer is read off them. -/
theorem map_digitsValue?_eq_some_iff {text : List Char} {compute : Int → Int} {value : Int} :
    ((do let number ← digitsValue? text; pure (number : Int)).map compute) = some value ↔
      ∃ number : Nat, Digits text number ∧ compute number = value := by
  simp only [bind, pure, Option.map_bind, Option.bind_eq_some_iff, Function.comp_apply,
    Option.map_some, Option.some.injEq, digitsValue?_eq_some_iff]

/-- A text is read as an integer exactly if it is a literal of it. -/
theorem intLiteral?_eq_some_iff {text : List Char} {value : Int} :
    intLiteral? text = some value ↔ IntLiteral text value := by
  unfold intLiteral?
  split
  · rw [map_digitsValue?_eq_some_iff]
    constructor
    · rintro ⟨number, digits, rfl⟩
      exact .minus digits
    · rintro (@⟨_, _, digits⟩ | digits)
      · cases digits with
        | plain digits => exact absurd rfl (digits.head_ne rfl)
      · exact ⟨_, digits, rfl⟩
  · rw [map_digitsValue?_eq_some_iff]
    constructor
    · rintro ⟨number, digits, rfl⟩
      exact .natural (.plus digits)
    · rintro (@⟨_, _, digits⟩ | _)
      cases digits with
      | plain digits => exact absurd rfl (digits.head_ne rfl)
      | plus digits => exact ⟨_, digits, rfl⟩
  · rename_i noMinus noPlus
    rw [map_digitsValue?_eq_some_iff]
    constructor
    · rintro ⟨number, digits, rfl⟩
      exact .natural (.plain digits)
    · rintro (@⟨_, _, digits⟩ | _)
      · cases digits with
        | plain digits => exact ⟨_, digits, rfl⟩
        | plus digits => exact absurd rfl (noPlus _)
      · exact absurd rfl (noMinus _)

/-- A text is read as a number of 32 bits exactly if it is a literal of it. -/
theorem int32Literal?_eq_some_iff {text : String} {value : Int32} :
    int32Literal? text = some value ↔ IntLiteral text.toList value.toInt := by
  simp only [int32Literal?, bind, Option.bind_eq_some_iff, intLiteral?_eq_some_iff,
    Option.ite_none_right_eq_some, Option.some.injEq]
  constructor
  · rintro ⟨number, literal, ⟨lower, upper⟩, rfl⟩
    rwa [Int32.toInt_ofInt_of_le lower (Int.lt_add_one_of_le upper)]
  · intro literal
    exact ⟨value.toInt, literal, ⟨value.minValue_le_toInt, value.toInt_le⟩, value.ofInt_toInt⟩

/-- A number does not shrink by digits behind it. -/
theorem le_ofDigitChars (digits : List Char) (value : Nat) :
    value ≤ Nat.ofDigitChars 10 digits value := by
  induction digits generalizing value with
  | nil => exact Nat.le_refl _
  | cons digit later inductionHypothesis =>
    rw [Nat.ofDigitChars_cons]
    exact Nat.le_trans (by omega) (inductionHypothesis _)

/-- Characters are appended to a number below a bound exactly if they are digits and the number
stays below the bound. -/
theorem appendDigits_eq_ok_iff {bound value result : Nat} (below : value < bound)
    {digits : List Char} :
    appendDigits bound value digits = .ok result ↔
      (∀ digit ∈ digits, digit.isDigit = true) ∧ Nat.ofDigitChars 10 digits value = result ∧
        result < bound := by
  induction digits generalizing value with
  | nil =>
    rw [appendDigits, Nat.ofDigitChars_nil, Except.ok.injEq]
    exact ⟨fun equal => ⟨List.forall_mem_nil _, equal, equal ▸ below⟩, fun parts => parts.2.1⟩
  | cons digit later inductionHypothesis =>
    rw [appendDigits, Nat.ofDigitChars_cons, List.forall_mem_cons]
    by_cases digital : digit.isDigit = true
    · rw [if_pos digital]
      dsimp only
      split
      · rename_i stillBelow
        rw [inductionHypothesis stillBelow, and_iff_right digital]
      · rename_i tooLarge
        -- Further digits do not make the number smaller again.
        have grows := le_ofDigitChars later (10 * value + (digit.toNat - '0'.toNat))
        refine iff_of_false nofun ?_
        rintro ⟨-, rfl, small⟩
        exact tooLarge (Nat.lt_of_le_of_lt grows small)
    · rw [if_neg digital]
      exact iff_of_false nofun fun parts => digital parts.1.1

/-- Characters behind nothing are digits of a number below a bound. -/
theorem appendDigits_zero_eq_ok_iff {bound value : Nat} (positive : 0 < bound)
    {digits : List Char} (nonempty : digits ≠ []) :
    appendDigits bound 0 digits = .ok value ↔ Digits digits value ∧ value < bound := by
  rw [appendDigits_eq_ok_iff positive]
  constructor
  · rintro ⟨digital, stands, small⟩
    exact ⟨⟨nonempty, digital, stands⟩, small⟩
  · rintro ⟨⟨-, digital, stands⟩, small⟩
    exact ⟨digital, stands, small⟩

/-- A text is read as a number below a bound exactly if it is a literal of it. -/
theorem natLiteral_eq_ok_iff {bound value : Nat} (positive : 0 < bound) {text : List Char} :
    natLiteral bound text = .ok value ↔ NatLiteral text value ∧ value < bound := by
  unfold natLiteral
  split
  · refine iff_of_false nofun ?_
    rintro ⟨⟨digits⟩, -⟩
    exact digits.nonempty rfl
  · refine iff_of_false nofun ?_
    rintro ⟨⟨digits⟩ | ⟨digits⟩, -⟩
    · exact digits.head_ne rfl rfl
    · exact digits.nonempty rfl
  · rename_i digits notAlone
    have nonempty : digits ≠ [] := fun empty => notAlone (empty ▸ rfl)
    rw [appendDigits_zero_eq_ok_iff positive nonempty]
    refine and_congr_left fun _ => ⟨.plus, ?_⟩
    rintro (⟨digits⟩ | ⟨digits⟩)
    · exact absurd rfl (digits.head_ne rfl)
    · exact digits
  · rename_i nonempty _ noSign
    rw [appendDigits_zero_eq_ok_iff positive nonempty]
    refine and_congr_left fun _ => ⟨.plain, ?_⟩
    rintro (⟨digits⟩ | ⟨digits⟩)
    · exact digits
    · exact absurd rfl (noSign _)

/-- What a reader without its faults returned. -/
theorem toOption_eq_some_iff {ε α : Type} {result : Except ε α} {value : α} :
    result.toOption = some value ↔ result = .ok value := by
  cases result with
  | error fault => exact iff_of_false nofun nofun
  | ok found => rw [Except.toOption, Option.some.injEq, Except.ok.injEq]

/-- A text is read as an unsigned number of 32 bits exactly if it is a literal of it. -/
theorem uint32Literal?_eq_some_iff {text : String} {value : UInt32} :
    uint32Literal? text = some value ↔ NatLiteral text.toList value.toNat := by
  simp only [uint32Literal?, Option.map_eq_some_iff, toOption_eq_some_iff,
    natLiteral_eq_ok_iff (by decide : 0 < UInt32.size)]
  constructor
  · rintro ⟨number, ⟨literal, small⟩, rfl⟩
    rwa [UInt32.toNat_ofNat_of_lt' small]
  · intro literal
    exact ⟨value.toNat, ⟨literal, value.toNat_lt_size⟩, UInt32.ofNat_toNat⟩

/-- A text is read as an unsigned number of 64 bits exactly if it is a literal of it. -/
theorem uint64Literal?_eq_some_iff {text : String} {value : UInt64} :
    uint64Literal? text = some value ↔ NatLiteral text.toList value.toNat := by
  simp only [uint64Literal?, Option.map_eq_some_iff, toOption_eq_some_iff,
    natLiteral_eq_ok_iff (by decide : 0 < UInt64.size)]
  constructor
  · rintro ⟨number, ⟨literal, small⟩, rfl⟩
    rwa [UInt64.toNat_ofNat_of_lt' small]
  · intro literal
    exact ⟨value.toNat, ⟨literal, value.toNat_lt_size⟩, UInt64.ofNat_toNat⟩

/-! ## Blanks around a text -/

/-- Whether a text is another one with blanks around it. -/
def Padded (text core : List Char) : Prop :=
  ∃ before after, text = before ++ (core ++ after) ∧
    (∀ blank ∈ before, isBlank blank = true) ∧ ∀ blank ∈ after, isBlank blank = true

/-- Whether no character of a text is blank. -/
def Solid (text : List Char) : Prop :=
  ∀ character ∈ text, isBlank character = false

/-- No blank is dropped in front of a character that is none. -/
theorem dropWhile_isBlank_of_solid {text : List Char} (solid : Solid text) (rest : List Char)
    (nonempty : text ≠ []) : (text ++ rest).dropWhile isBlank = text ++ rest := by
  obtain ⟨first, later, rfl⟩ := List.exists_cons_of_ne_nil nonempty
  have visible := solid first (List.mem_cons_self ..)
  exact List.dropWhile_cons_of_neg (by simp [visible])

/-- Trimming takes the blanks around a text without blanks away. -/
theorem trim_of_padded {text core : List Char} (solid : Solid core) (padded : Padded text core) :
    trim text = core := by
  obtain ⟨before, after, rfl, beforeBlank, afterBlank⟩ := padded
  rw [trim, List.dropWhile_append_of_pos beforeBlank]
  by_cases empty : core = []
  · subst empty
    rw [List.nil_append, List.dropWhile_eq_nil_iff.mpr afterBlank]
    rfl
  · have blankBehind : ∀ blank ∈ after.reverse, isBlank blank = true :=
      fun blank member => afterBlank blank (List.mem_reverse.mp member)
    have solidBehind : Solid core.reverse :=
      fun character member => solid character (List.mem_reverse.mp member)
    have kept := dropWhile_isBlank_of_solid solidBehind []
      (List.reverse_eq_nil_iff.not.mpr empty)
    rw [List.append_nil] at kept
    rw [dropWhile_isBlank_of_solid solid after empty, List.reverse_append,
      List.dropWhile_append_of_pos blankBehind, kept, List.reverse_reverse]

/-- A text without blanks is trimmed. -/
theorem trim_of_solid {text : List Char} (solid : Solid text) : trim text = text :=
  trim_of_padded solid
    ⟨[], [], (List.append_nil text).symm, List.forall_mem_nil _, List.forall_mem_nil _⟩

/-- A text is what remains of it with the blanks that were trimmed around it. -/
theorem padded_trim (text : List Char) : Padded text (trim text) := by
  have front := List.takeWhile_append_dropWhile (p := isBlank) (l := text)
  have back := List.takeWhile_append_dropWhile (p := isBlank)
    (l := (text.dropWhile isBlank).reverse)
  have whole := congrArg List.reverse back
  rw [List.reverse_append, List.reverse_reverse] at whole
  refine ⟨text.takeWhile isBlank, ((text.dropWhile isBlank).reverse.takeWhile isBlank).reverse,
    ?_, fun _ => List.mem_takeWhile_imp, fun blank member => ?_⟩
  · rw [trim, whole, front]
  · exact List.mem_takeWhile_imp (List.mem_reverse.mp member)

/-- No digit is a blank. -/
theorem isBlank_of_isDigit {digit : Char} (digital : digit.isDigit = true) :
    isBlank digit = false := by
  simp only [Char.isDigit, Bool.and_eq_true, decide_eq_true_eq] at digital
  have lower : 48 ≤ digit.toNat := digital.1
  have upper : digit.toNat ≤ 57 := digital.2
  simp only [isBlank, Bool.or_eq_false_iff, Bool.and_eq_false_iff, decide_eq_false_iff_not,
    beq_eq_false_iff_ne]
  omega

/-- Digits hold no blank. -/
theorem Digits.solid {text : List Char} {value : Nat} (digits : Digits text value) : Solid text :=
  fun digit member => isBlank_of_isDigit (digits.digital digit member)

/-- A literal holds no blank. -/
theorem IntLiteral.solid {text : List Char} {value : Int} (literal : IntLiteral text value) :
    Solid text := by
  cases literal with
  | natural literal =>
    cases literal with
    | plain digits => exact digits.solid
    | plus digits => exact List.forall_mem_cons.mpr ⟨rfl, digits.solid⟩
  | minus digits => exact List.forall_mem_cons.mpr ⟨rfl, digits.solid⟩

/-- A trimmed text is a literal exactly if the text is one with blanks around it. -/
theorem intLiteral_trim_iff {text : List Char} {value : Int} :
    IntLiteral (trim text) value ↔
      ∃ literal, Padded text literal ∧ IntLiteral literal value := by
  constructor
  · intro literal
    exact ⟨trim text, padded_trim text, literal⟩
  · rintro ⟨literal, padded, number⟩
    rwa [trim_of_padded number.solid padded]

end CardLimits.Text
