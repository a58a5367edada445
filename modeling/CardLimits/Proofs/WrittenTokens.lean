import CardLimits.Json.Printer
import CardLimits.Proofs.Literals
import CardLimits.Proofs.WrittenTrees
/-!
# The tokens of written values

A text spells a value (`Json.Spells`) if the value's tokens are cut from it whatever
follows, as long as no numeral can go on there.  Both written forms spell their value
when all its numbers are integers of at most 64 bits (`spells_compact`,
`spells_spread`).  They differ in the white space that they put into arrays and objects,
which is their `Layout`; any layout will do.

A double is not in general read as what it was written for, so nothing is said of it.
-/

namespace CardLimits.Json

/-- A value in which every number is an integer of 64 bits, signed or unsigned. -/
inductive Exact : Json → Prop
  | null : Exact .null
  | bool (flag : Bool) : Exact (.bool flag)
  | integer (value : Int) (lower : Int64.minValue.toInt ≤ value) (upper : value < UInt64.size) :
      Exact (.number (.integer value))
  | string (text : String) : Exact (.string text)
  | array (items : List Json) (inside : ∀ item ∈ items, Exact item) : Exact (.array items)
  | object (members : List (String × Json)) (inside : ∀ member ∈ members, Exact member.2) :
      Exact (.object members)

attribute [simp] Exact.null Exact.bool Exact.string

@[simp]
theorem exact_integer {value : Int} :
    (Json.integer value).Exact ↔ Int64.minValue.toInt ≤ value ∧ value < UInt64.size := by
  refine ⟨fun exact => ?_, fun bounds => .integer value bounds.1 bounds.2⟩
  cases exact with
  | integer _ lower upper => exact ⟨lower, upper⟩

@[simp]
theorem exact_array {items : List Json} :
    (Json.array items).Exact ↔ ∀ item ∈ items, item.Exact := by
  refine ⟨fun exact => ?_, .array items⟩
  cases exact with
  | array _ inside => exact inside

@[simp]
theorem exact_object {members : List (String × Json)} :
    (Json.object members).Exact ↔ ∀ member ∈ members, member.2.Exact := by
  refine ⟨fun exact => ?_, .object members⟩
  cases exact with
  | object _ inside => exact inside

/-- The bounds of an exact integer in figures. -/
theorem Exact.of_bounds {value : Int} (lower : -9223372036854775808 ≤ value)
    (upper : value < 18446744073709551616) : (Json.integer value).Exact :=
  .integer value lower upper

/-- Whether no numeral goes on into a text. -/
def endsNumeral : List Char → Bool
  | [] => true
  | character :: _ =>
    !character.isDigit && character ≠ '.' && character ≠ 'e' && character ≠ 'E'

/-- A text that the tokens of a value are cut from, whatever follows it. -/
def Spells (text : List Char) (value : Json) : Prop :=
  ∀ rest, endsNumeral rest → tokens (text ++ rest) = value.asTokens ++ tokens rest

/-- A character that is not white space starts a token. -/
theorem tokens_of_next {character : Char} {rest after : List Char} {token : Token}
    (solid : isSpace character = false) (next : Token.next character rest = (token, after)) :
    tokens (character :: rest) = token :: tokens after := by
  rw [tokens, solid, next]
  rfl

@[simp]
theorem tokens_openArray (rest : List Char) : tokens ('[' :: rest) = .openArray :: tokens rest :=
  tokens_of_next rfl rfl

@[simp]
theorem tokens_closeArray (rest : List Char) :
    tokens (']' :: rest) = .closeArray :: tokens rest :=
  tokens_of_next rfl rfl

@[simp]
theorem tokens_openObject (rest : List Char) :
    tokens ('{' :: rest) = .openObject :: tokens rest :=
  tokens_of_next rfl rfl

@[simp]
theorem tokens_closeObject (rest : List Char) :
    tokens ('}' :: rest) = .closeObject :: tokens rest :=
  tokens_of_next rfl rfl

@[simp]
theorem tokens_comma (rest : List Char) : tokens (',' :: rest) = .comma :: tokens rest :=
  tokens_of_next rfl rfl

@[simp]
theorem tokens_colon (rest : List Char) : tokens (':' :: rest) = .colon :: tokens rest :=
  tokens_of_next rfl rfl

/-- White space makes no token. -/
theorem tokens_blank {blank : List Char} (white : ∀ character ∈ blank, isSpace character)
    (rest : List Char) : tokens (blank ++ rest) = tokens rest := by
  induction blank with
  | nil => rfl
  | cons character later inductionHypothesis =>
    rw [List.cons_append, tokens, if_pos (white character (List.mem_cons_self ..))]
    exact inductionHypothesis fun other member => white other (List.mem_cons_of_mem _ member)

/-- A numeral does not go on into white space. -/
theorem endsNumeral_blank {blank rest : List Char}
    (white : ∀ character ∈ blank, isSpace character) (ends : endsNumeral rest) :
    endsNumeral (blank ++ rest) := by
  cases blank with
  | nil => exact ends
  | cons character later =>
    have space := white character (List.mem_cons_self ..)
    simp only [isSpace, Bool.or_eq_true, decide_eq_true_eq] at space
    rcases space with ((rfl | rfl) | rfl) | rfl <;> rfl

/-! ## Numbers -/

namespace Numeral

/-- What no numeral goes on into starts with no digit. -/
theorem takeWhile_isDigit_of_endsNumeral {rest : List Char} (ends : endsNumeral rest) :
    rest.takeWhile Char.isDigit = [] ∧ rest.dropWhile Char.isDigit = rest := by
  cases rest with
  | nil => exact ⟨rfl, rfl⟩
  | cons character later =>
    have noDigit : character.isDigit = false := by
      simp only [endsNumeral, Bool.and_eq_true, Bool.not_eq_true'] at ends
      exact ends.1.1.1
    exact ⟨List.takeWhile_cons_of_neg (by simp [noDigit]),
      List.dropWhile_cons_of_neg (by simp [noDigit])⟩

/-- A run of digits is scanned up to its end. -/
theorem scanDigits_append {digits rest : List Char} (nonempty : digits ≠ [])
    (digital : ∀ digit ∈ digits, digit.isDigit) (ends : endsNumeral rest) :
    scanDigits (digits ++ rest) = .ok (digits, rest) := by
  obtain ⟨noDigits, stays⟩ := takeWhile_isDigit_of_endsNumeral ends
  have some : digits.isEmpty = false := List.isEmpty_eq_false_iff.mpr nonempty
  rw [scanDigits, List.takeWhile_append_of_pos digital, List.dropWhile_append_of_pos digital,
    noDigits, stays, List.append_nil, some]
  rfl

/-- No number but zero is written with a zero in front. -/
theorem eq_zero_of_head?_toDigits {value : Nat}
    (leads : (Nat.toDigits 10 value).head? = some '0') : value = 0 := by
  induction value using Nat.strongRecOn with
  | ind value inductionHypothesis =>
    by_cases small : value < 10
    · rw [Nat.toDigits_of_lt_base small, List.head?_cons, Option.some.injEq] at leads
      exact Nat.digitChar_eq_zero.mp leads
    · obtain ⟨first, later, digits⟩ := List.exists_cons_of_ne_nil
        (Nat.toDigits_ne_nil (n := value / 10) (b := 10))
      rw [Nat.toDigits_of_base_le (by decide) (by omega), digits, List.cons_append,
        List.head?_cons] at leads
      have := inductionHypothesis (value / 10) (by omega) (by rw [digits, List.head?_cons, leads])
      omega

/-- The digits of a number make up a numeral without fraction and exponent. -/
theorem scanUnsigned_toDigits (negative : Bool) (value : Nat) {rest : List Char}
    (ends : endsNumeral rest) :
    scanUnsigned negative (Nat.toDigits 10 value ++ rest) =
      .ok (⟨negative, Nat.toDigits 10 value, [], none⟩, rest) := by
  have whole : scanWhole (Nat.toDigits 10 value ++ rest) = .ok (Nat.toDigits 10 value, rest) := by
    rw [scanWhole, scanDigits_append Nat.toDigits_ne_nil
      (fun _ => Nat.isDigit_of_mem_toDigits (by decide) (by decide)) ends]
    refine if_neg ?_
    rintro ⟨leads, long⟩
    rw [eq_zero_of_head?_toDigits leads] at long
    exact long rfl
  have fraction : scanFraction rest = .ok ([], rest) := by
    unfold scanFraction
    split
    · simp [endsNumeral] at ends
    · rfl
  have exponent : scanExponent rest = .ok (none, rest) := by
    unfold scanExponent
    split
    · rfl
    · simp only [endsNumeral, Bool.and_eq_true, decide_eq_true_eq] at ends
      rw [if_neg]
      rintro (rfl | rfl)
      · exact ends.1.2 rfl
      · exact ends.2 rfl
  simp only [scanUnsigned, whole, fraction, exponent, bind, Except.bind, pure, Except.pure]

/-- Digits of a number within 64 bits all fit. -/
theorem absorb_eq_ofDigitChars {digits : List Char} {significand : Nat}
    (fits : Nat.ofDigitChars 10 digits significand < UInt64.size) :
    absorb significand digits = (Nat.ofDigitChars 10 digits significand, []) := by
  induction digits generalizing significand with
  | nil => rfl
  | cons digit later inductionHypothesis =>
    rw [Nat.ofDigitChars_cons] at fits ⊢
    rw [absorb, digitValue, if_pos (Nat.lt_of_le_of_lt (Text.le_ofDigitChars later _) fits)]
    exact inductionHypothesis fits

/-- The digits of a number within 64 bits are absorbed as that number. -/
theorem absorb_toDigits {value : Nat} (fits : value < UInt64.size) :
    absorb 0 (Nat.toDigits 10 value) = (value, []) := by
  have content := Nat.ofDigitChars_toDigits (b := 10) (n := value) (by decide) (by decide)
  rw [absorb_eq_ofDigitChars (by rw [content]; exact fits), content]

/-- A numeral that stands for an exact integer is that number. -/
theorem lexeme_of_integer? {numeral : Numeral} {value : Int}
    (stands : numeral.integer? = some value) : numeral.lexeme = .value (.integer value) := by
  rw [lexeme, number?, stands]

/-- The digits of a number of 64 bits stand for it. -/
theorem integer?_toDigits {value : Nat} (fits : value < UInt64.size) :
    integer? ⟨false, Nat.toDigits 10 value, [], none⟩ = some (value : Int) := by
  rw [integer?, absorb_toDigits fits]
  rfl

/-- The digits behind a sign stand for the negative of their number, unless that is zero
or below the signed integers of 64 bits. -/
theorem integer?_negative_toDigits {value : Nat} (positive : 0 < value)
    (fits : Int64.minValue.toInt ≤ -(value : Int)) :
    integer? ⟨true, Nat.toDigits 10 value, [], none⟩ = some (-value : Int) := by
  have least : Int64.minValue.toInt = -9223372036854775808 := rfl
  have unsigned : value < UInt64.size := by
    rw [UInt64.size]
    omega
  rw [integer?, absorb_toDigits unsigned]
  have read : value ≠ 0 ∧ Int64.minValue.toInt ≤ -(value : Int) :=
    ⟨Nat.ne_of_gt positive, fits⟩
  exact if_pos read

/-- An integer of 64 bits is scanned as itself. -/
theorem scan_integerText {value : Int} (lower : Int64.minValue.toInt ≤ value)
    (upper : value < UInt64.size) {rest : List Char} (ends : endsNumeral rest) :
    ∃ numeral, scan (integerText value ++ rest) = .ok (numeral, rest) ∧
      numeral.lexeme = .value (.integer value) := by
  cases value with
  | ofNat magnitude =>
    refine ⟨_, ?_, lexeme_of_integer? (integer?_toDigits (Int.ofNat_lt.mp upper))⟩
    rw [integerText, ← scanUnsigned_toDigits false magnitude ends]
    unfold scan
    split
    · rename_i text signed
      have sign : '-' ∈ Nat.toDigits 10 magnitude := by
        obtain ⟨first, later, digits⟩ := List.exists_cons_of_ne_nil
          (Nat.toDigits_ne_nil (n := magnitude) (b := 10))
        rw [digits, List.cons_append, List.cons.injEq] at signed
        rw [digits, signed.1]
        exact List.mem_cons_self ..
      exact absurd (Nat.isDigit_of_mem_toDigits (by decide) (by decide) sign) (by decide)
    · rfl
  | negSucc magnitude =>
    rw [Int.negSucc_eq, ← Int.natCast_succ] at lower
    refine ⟨_, scanUnsigned_toDigits true (magnitude + 1) ends, ?_⟩
    rw [Int.negSucc_eq, ← Int.natCast_succ]
    exact lexeme_of_integer? (integer?_negative_toDigits (Nat.succ_pos magnitude) lower)

end Numeral

/-- A character that starts a numeral makes it a token. -/
theorem Token.next_of_starts {character : Char} (starts : Numeral.starts character)
    (rest : List Char) : Token.next character rest = Token.numeral (character :: rest) := by
  unfold next
  split <;> first | contradiction | exact if_pos starts

/-- What starts a numeral is no white space. -/
theorem isSpace_of_starts {character : Char} (starts : Numeral.starts character) :
    isSpace character = false := by
  rw [Bool.eq_false_iff]
  intro space
  simp only [isSpace, Bool.or_eq_true, decide_eq_true_eq] at space
  rcases space with ((rfl | rfl) | rfl) | rfl <;> contradiction

/-- The text of an integer starts a numeral. -/
theorem exists_integerText_eq_cons (value : Int) :
    ∃ first later, integerText value = first :: later ∧ Numeral.starts first := by
  cases value with
  | ofNat magnitude =>
    obtain ⟨first, later, digits⟩ := List.exists_cons_of_ne_nil
      (Nat.toDigits_ne_nil (n := magnitude) (b := 10))
    have digital := Nat.isDigit_of_mem_toDigits (b := 10) (n := magnitude) (c := first)
      (by decide) (by decide) (by simp [digits])
    exact ⟨first, later, digits, by simp [Numeral.starts, digital]⟩
  | negSucc magnitude => exact ⟨'-', _, rfl, rfl⟩

/-- The text of an integer of 64 bits is one token, the number. -/
theorem spells_integer {value : Int} (lower : Int64.minValue.toInt ≤ value)
    (upper : value < UInt64.size) : Spells (integerText value) (.number (.integer value)) := by
  intro rest ends
  obtain ⟨numeral, scanned, stands⟩ := Numeral.scan_integerText lower upper ends
  obtain ⟨first, later, text, starts⟩ := exists_integerText_eq_cons value
  rw [text, List.cons_append] at scanned ⊢
  refine tokens_of_next (isSpace_of_starts starts) ?_
  rw [Token.next_of_starts starts, Token.numeral, scanned]
  simp only [stands, Lexeme.map]

/-! ## Strings -/

/-- A piece of a written string that is read as a character. -/
def Piece.StandsFor (piece : Piece) (character : Char) : Prop :=
  ∀ ending later, Quoted.characters ending (piece :: later) =
    (Quoted.characters ending later).map (character :: ·)

namespace Quoted

/-- The digit of a number below sixteen has that number as its value. -/
theorem hexDigit?_digitChar : ∀ value < 16, Text.hexDigit? (Nat.digitChar value) = some value := by
  decide

/-- A quotation mark ends a string. -/
theorem pieces_quotationMark (rest : List Char) : pieces ('"' :: rest) = ([], .ok rest) := by
  rw [pieces.eq_def]
  rfl

/-- A one-letter escape is a piece. -/
theorem pieces_escape {letter character : Char} (notDigits : letter ≠ 'u')
    (escapes : escaped? letter = some character) (rest : List Char) :
    pieces ('\\' :: letter :: rest) = withPiece (.plain character) (pieces rest) := by
  rw [pieces.eq_def]
  simp [notDigits, escapes]

/-- A character that needs no escape is a piece. -/
theorem pieces_plain {character : Char} (noQuotationMark : character ≠ '"')
    (noBackslash : character ≠ '\\') (visible : ¬ character.toNat < 0x20) (rest : List Char) :
    pieces (character :: rest) = withPiece (.plain character) (pieces rest) := by
  rw [pieces.eq_def]
  simp [noQuotationMark, noBackslash, visible]

/-- Four digits of a code unit are a piece. -/
theorem pieces_codeUnit {first second third fourth : Char} {code : Nat}
    (digits : codeUnit? first second third fourth = some code) (rest : List Char) :
    pieces ('\\' :: 'u' :: first :: second :: third :: fourth :: rest) =
      withPiece (.codeUnit code) (pieces rest) := by
  rw [pieces.eq_def]
  simp [digits]

/-- A code unit that is written in four digits is a piece. -/
theorem pieces_hexQuad {code : Nat} (fits : code < 0x10000) (rest : List Char) :
    pieces ('\\' :: 'u' :: (hexQuad code ++ rest)) = withPiece (.codeUnit code) (pieces rest) := by
  have digits : codeUnit? (Nat.digitChar (code / 4096 % 16)) (Nat.digitChar (code / 256 % 16))
      (Nat.digitChar (code / 16 % 16)) (Nat.digitChar (code % 16)) = some code := by
    simp only [codeUnit?, hexDigit?_digitChar _ (Nat.mod_lt _ (by decide : 0 < 16)),
      Option.bind_eq_bind, Option.bind_some, Option.pure_def, Option.some.injEq]
    omega
  exact pieces_codeUnit digits rest

/-- A control character stands for itself when it is written as a code unit: it is no
half of a surrogate pair. -/
theorem codeUnit_standsFor {character : Char} (control : character.toNat < 0x20) :
    (Piece.codeUnit character.toNat).StandsFor character := by
  intro ending later
  have notTrailing : isTrailing character.toNat = false := by
    simp only [isTrailing, Bool.and_eq_false_iff, decide_eq_false_iff_not]
    omega
  have notLeading : isLeading character.toNat = false := by
    simp only [isLeading, Bool.and_eq_false_iff, decide_eq_false_iff_not]
    omega
  rw [characters.eq_def]
  simp [notTrailing, notLeading]

/-- Every character is written as one piece that stands for it. -/
theorem pieces_escapeChar (character : Char) (rest : List Char) :
    ∃ piece : Piece, piece.StandsFor character ∧
      pieces (escapeChar character ++ rest) = withPiece piece (pieces rest) := by
  unfold escapeChar
  split
  case h_8 noQuotationMark noBackslash _ _ _ _ _ =>
    split
    · rename_i control
      exact ⟨.codeUnit character.toNat, codeUnit_standsFor control,
        pieces_hexQuad (by omega) rest⟩
    · rename_i visible
      exact ⟨.plain character, fun _ _ => rfl,
        pieces_plain noQuotationMark noBackslash visible rest⟩
  all_goals exact ⟨.plain _, fun _ _ => rfl, pieces_escape (by decide) rfl rest⟩

/-- A written text is read back up to its closing quotation mark. -/
theorem pieces_escaped (text rest : List Char) :
    ∃ found, pieces (text.flatMap escapeChar ++ '"' :: rest) = (found, .ok rest) ∧
      characters none found = .ok text := by
  induction text with
  | nil => exact ⟨[], pieces_quotationMark rest, rfl⟩
  | cons character later inductionHypothesis =>
    obtain ⟨found, cut, content⟩ := inductionHypothesis
    obtain ⟨piece, stands, first⟩ :=
      pieces_escapeChar character (later.flatMap escapeChar ++ '"' :: rest)
    refine ⟨piece :: found, ?_, ?_⟩
    · rw [List.flatMap_cons, List.append_assoc, first, cut, withPiece]
    · rw [stands, content]
      rfl

end Quoted

/-- A quoted text is one token, the string. -/
theorem tokens_quote (text : String) (rest : List Char) :
    tokens (quote text ++ rest) = .quoted (.value text) :: tokens rest := by
  obtain ⟨found, cut, content⟩ := Quoted.pieces_escaped text.toList rest
  have text : quote text ++ rest =
      '"' :: (text.toList.flatMap escapeChar ++ '"' :: rest) := by
    simp [quote]
  rw [text]
  refine tokens_of_next rfl ?_
  simp only [Token.next, Token.string, Quoted.scan, cut, content, String.ofList_toList]

/-! ## Whole values -/

/-- Items one behind the other: every item but the first stands behind a separator. -/
theorem separated_cons (separator item : List Char) (rest : List (List Char)) :
    separated separator (item :: rest) =
      item ++ rest.flatMap fun later => separator ++ later := by
  induction rest generalizing item with
  | nil => simp [separated]
  | cons next later inductionHypothesis =>
    rw [separated, inductionHypothesis, List.flatMap_cons, List.append_assoc, List.append_assoc]
    simp

/-- The text of a string spells it. -/
theorem spells_string (text : String) : Spells (quote text) (.string text) :=
  fun rest _ => tokens_quote text rest

/-- The start of a line is white space. -/
theorem isSpace_of_mem_newLine {level : Nat} {character : Char}
    (member : character ∈ newLine level) : isSpace character := by
  rcases List.mem_cons.mp member with rfl | blank
  · rfl
  · rw [List.eq_of_mem_replicate blank]
    rfl

/-- The white space that a written form puts into an array or object. -/
structure Layout where
  /-- Behind the first bracket and behind every comma. -/
  gap : List Char
  /-- Behind the colon of a member. -/
  colonGap : List Char
  /-- Before the last bracket. -/
  last : List Char
  gapWhite : ∀ character ∈ gap, isSpace character
  colonGapWhite : ∀ character ∈ colonGap, isSpace character
  lastWhite : ∀ character ∈ last, isSpace character

namespace Layout

/-- No white space at all. -/
def compact : Layout where
  gap := []
  colonGap := []
  last := []
  gapWhite := List.forall_mem_nil _
  colonGapWhite := List.forall_mem_nil _
  lastWhite := List.forall_mem_nil _

/-- A line for every item and member of an array or object at a level of nesting. -/
def spread (level : Nat) : Layout where
  gap := newLine (level + 1)
  colonGap := [' ']
  last := newLine level
  gapWhite _ := isSpace_of_mem_newLine
  colonGapWhite := List.forall_mem_singleton.mpr rfl
  lastWhite _ := isSpace_of_mem_newLine

variable (layout : Layout)

/-- The texts of items or members between two brackets. -/
def between (opening closing : Char) (texts : List (List Char)) : List Char :=
  opening :: layout.gap ++ separated (',' :: layout.gap) texts ++ layout.last ++ [closing]

/-- The texts that stand behind the first one, up to the last bracket. -/
def behind (closing : Char) (texts : List (List Char)) (rest : List Char) : List Char :=
  texts.flatMap (fun text => ',' :: layout.gap ++ text) ++ (layout.last ++ closing :: rest)

/-- The text of a member, given how its value is written. -/
def memberText (write : Json → List Char) (member : String × Json) : List Char :=
  quote member.1 ++ ':' :: (layout.colonGap ++ write member.2)

/-- A numeral does not go on into what stands behind an item or member. -/
theorem endsNumeral_behind {closing : Char} (ends : ∀ rest, endsNumeral (closing :: rest))
    (texts : List (List Char)) (rest : List Char) :
    endsNumeral (layout.behind closing texts rest) := by
  cases texts with
  | nil =>
    rw [behind, List.flatMap_nil, List.nil_append]
    exact endsNumeral_blank layout.lastWhite (ends rest)
  | cons text later => rfl

/-- Between brackets without anything else in them there is white space only. -/
theorem tokens_between_nil {opening closing : Char} (rest : List Char) {token : Token}
    (opens : ∀ after, tokens (opening :: after) = token :: tokens after) :
    tokens (layout.between opening closing [] ++ rest) = token :: tokens (closing :: rest) := by
  simp only [between, separated, List.cons_append, List.append_assoc, List.nil_append, opens,
    tokens_blank layout.gapWhite, tokens_blank layout.lastWhite]

/-- Behind the first bracket follows the first text and what stands behind it. -/
theorem tokens_between_cons {opening closing : Char} (text : List Char)
    (later : List (List Char)) (rest : List Char) {token : Token}
    (opens : ∀ after, tokens (opening :: after) = token :: tokens after) :
    tokens (layout.between opening closing (text :: later) ++ rest) =
      token :: tokens (text ++ layout.behind closing later rest) := by
  simp only [between, behind, separated_cons, List.cons_append, List.append_assoc,
    List.nil_append, opens, tokens_blank layout.gapWhite]

/-- Behind the last text there is white space only. -/
theorem tokens_behind_nil (closing : Char) (rest : List Char) :
    tokens (layout.behind closing [] rest) = tokens (closing :: rest) := by
  rw [behind, List.flatMap_nil, List.nil_append, tokens_blank layout.lastWhite]

/-- Behind an item or member follow a comma, the next text and what stands behind it. -/
theorem tokens_behind_cons (closing : Char) (text : List Char) (later : List (List Char))
    (rest : List Char) :
    tokens (layout.behind closing (text :: later) rest) =
      .comma :: tokens (text ++ layout.behind closing later rest) := by
  simp only [behind, List.flatMap_cons, List.cons_append, List.append_assoc, tokens_comma,
    tokens_blank layout.gapWhite]

variable {write : Json → List Char}

/-- The later items of an array are spelled by their texts. -/
theorem tokens_laterItems {items : List Json}
    (spelled : ∀ item ∈ items, Spells (write item) item) (rest : List Char) :
    tokens (layout.behind ']' (items.map write) rest) =
      asTokens.laterItems items ++ tokens rest := by
  induction items with
  | nil => exact (layout.tokens_behind_nil ']' rest).trans (tokens_closeArray rest)
  | cons item later inductionHypothesis =>
    obtain ⟨first, others⟩ := List.forall_mem_cons.mp spelled
    rw [List.map_cons, tokens_behind_cons,
      first _ (layout.endsNumeral_behind (fun _ => rfl) _ rest), inductionHypothesis others,
      asTokens.laterItems, List.cons_append, List.append_assoc]

/-- An array is spelled by the texts of its items in any layout. -/
theorem spells_array {items : List Json} (spelled : ∀ item ∈ items, Spells (write item) item) :
    Spells (layout.between '[' ']' (items.map write)) (.array items) := by
  intro rest _
  cases items with
  | nil =>
    rw [List.map_nil, layout.tokens_between_nil rest tokens_openArray, tokens_closeArray]
    rfl
  | cons item later =>
    obtain ⟨first, others⟩ := List.forall_mem_cons.mp spelled
    rw [List.map_cons, layout.tokens_between_cons _ _ rest tokens_openArray,
      first _ (layout.endsNumeral_behind (fun _ => rfl) _ rest),
      layout.tokens_laterItems others, asTokens, List.cons_append, List.append_assoc]

/-- A member is spelled by its name, a colon and the text of its value. -/
theorem tokens_memberText {member : String × Json} (spelled : Spells (write member.2) member.2)
    {rest : List Char} (ends : endsNumeral rest) :
    tokens (layout.memberText write member ++ rest) =
      .quoted (.value member.1) :: .colon :: (member.2.asTokens ++ tokens rest) := by
  simp only [memberText, List.append_assoc, List.cons_append, tokens_quote, tokens_colon,
    tokens_blank layout.colonGapWhite]
  rw [spelled rest ends]

/-- The later members of an object are spelled by their texts. -/
theorem tokens_laterMembers {members : List (String × Json)}
    (spelled : ∀ member ∈ members, Spells (write member.2) member.2) (rest : List Char) :
    tokens (layout.behind '}' (members.map (layout.memberText write)) rest) =
      asTokens.laterMembers members ++ tokens rest := by
  induction members with
  | nil => exact (layout.tokens_behind_nil '}' rest).trans (tokens_closeObject rest)
  | cons member later inductionHypothesis =>
    obtain ⟨first, others⟩ := List.forall_mem_cons.mp spelled
    rw [List.map_cons, tokens_behind_cons,
      layout.tokens_memberText first (layout.endsNumeral_behind (fun _ => rfl) _ rest),
      inductionHypothesis others]
    simp only [asTokens.laterMembers, List.cons_append, List.append_assoc]

/-- An object is spelled by the texts of its members in any layout. -/
theorem spells_object {members : List (String × Json)}
    (spelled : ∀ member ∈ members, Spells (write member.2) member.2) :
    Spells (layout.between '{' '}' (members.map (layout.memberText write)))
      (.object members) := by
  intro rest _
  cases members with
  | nil =>
    rw [List.map_nil, layout.tokens_between_nil rest tokens_openObject, tokens_closeObject]
    rfl
  | cons member later =>
    obtain ⟨first, others⟩ := List.forall_mem_cons.mp spelled
    rw [List.map_cons, layout.tokens_between_cons _ _ rest tokens_openObject,
      layout.tokens_memberText first (layout.endsNumeral_behind (fun _ => rfl) _ rest),
      layout.tokens_laterMembers others]
    simp only [asTokens, List.cons_append, List.append_assoc]

end Layout

theorem compact_itemTexts (items : List Json) : compact.itemTexts items = items.map compact := by
  induction items with
  | nil => rfl
  | cons item later inductionHypothesis =>
    rw [compact.itemTexts, inductionHypothesis, List.map_cons]

theorem compact_memberTexts (members : List (String × Json)) :
    compact.memberTexts members = members.map (Layout.compact.memberText compact) := by
  induction members with
  | nil => rfl
  | cons member later inductionHypothesis =>
    rw [compact.memberTexts, inductionHypothesis, List.map_cons]
    rfl

/-- The compact form of a value spells it. -/
theorem spells_compact {value : Json} (exact : value.Exact) : Spells value.compact value := by
  induction exact with
  | null => exact fun rest _ => tokens_of_next rfl rfl
  | bool flag => cases flag <;> exact fun rest _ => tokens_of_next rfl rfl
  | integer value lower upper => exact spells_integer lower upper
  | string text => exact spells_string text
  | array items _ spelled =>
    rw [compact, compact_itemTexts, ← List.append_nil (separated _ _)]
    exact Layout.compact.spells_array spelled
  | object members _ spelled =>
    rw [compact, compact_memberTexts, ← List.append_nil (separated _ _)]
    exact Layout.compact.spells_object spelled

theorem spread_itemTexts (level : Nat) (items : List Json) :
    spread.itemTexts level items = items.map (spread level) := by
  induction items with
  | nil => rfl
  | cons item later inductionHypothesis =>
    rw [spread.itemTexts, inductionHypothesis, List.map_cons]

theorem spread_memberTexts (level : Nat) (members : List (String × Json)) :
    spread.memberTexts (level + 1) members =
      members.map ((Layout.spread level).memberText (spread (level + 1))) := by
  induction members with
  | nil => rfl
  | cons member later inductionHypothesis =>
    rw [spread.memberTexts, inductionHypothesis, List.map_cons]
    rfl

/-- The spread form of a value spells it, at any level of nesting.  An empty array or
object is laid out as in the compact form. -/
theorem spells_spread {value : Json} (exact : value.Exact) (level : Nat) :
    Spells (value.spread level) value := by
  induction exact generalizing level with
  | null => exact spells_compact .null
  | bool flag => exact spells_compact (.bool flag)
  | integer value lower upper => exact spells_compact (.integer value lower upper)
  | string text => exact spells_compact (.string text)
  | array items _ spelled =>
    rw [spread, spread_itemTexts, spreadBetween]
    cases items with
    | nil => exact spells_compact (.array [] (List.forall_mem_nil _))
    | cons item later =>
      exact (Layout.spread level).spells_array fun other member =>
        spelled other member (level + 1)
  | object members _ spelled =>
    rw [spread, spread_memberTexts, spreadBetween]
    cases members with
    | nil => exact spells_compact (.object [] (List.forall_mem_nil _))
    | cons member later =>
      exact (Layout.spread level).spells_object fun other present =>
        spelled other present (level + 1)

end CardLimits.Json
