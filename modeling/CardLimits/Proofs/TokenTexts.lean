import CardLimits.Proofs.WrittenTokens
import Mathlib.Data.List.Chain
/-!
# Texts of tokens

A token that is cut from a text and reaches its end is also cut from the text with more behind it
(`Token.next_append_rest`), if the token is whole and no numeral goes on there.  So a text that is
made of the texts of tokens, with any white space before, between and behind them (`Spaced`), has
exactly these tokens, whatever the white space is (`tokens_of_spaced`).
-/

namespace CardLimits.Json

/-! ## Cutting with more behind -/

/-- Two steps one after the other are kept if both are. -/
theorem bind_append {α β ε : Type} {first : Except ε (α × List Char)}
    {next : α × List Char → Except ε β} {result : β} (ran : first >>= next = .ok result) :
    ∃ value after, first = .ok (value, after) ∧ next (value, after) = .ok result := by
  cases first with
  | error fault => cases ran
  | ok reached => exact ⟨reached.1, reached.2, rfl, ran⟩

namespace Numeral

variable {text after rest : List Char}

/-- Digits end where they did if more follows that no numeral goes on into. -/
theorem scanDigits_append_rest {digits : List Char} (ends : endsNumeral rest)
    (found : scanDigits text = .ok (digits, after)) :
    scanDigits (text ++ rest) = .ok (digits, after ++ rest) := by
  obtain ⟨noDigits, stays⟩ := takeWhile_isDigit_of_endsNumeral ends
  have cut : (text ++ rest).takeWhile Char.isDigit = text.takeWhile Char.isDigit ∧
      (text ++ rest).dropWhile Char.isDigit = text.dropWhile Char.isDigit ++ rest := by
    clear found
    induction text with
    | nil => exact ⟨noDigits, stays⟩
    | cons first later inductionHypothesis =>
      by_cases digital : first.isDigit = true
      · simp only [List.cons_append, List.takeWhile_cons_of_pos digital,
          List.dropWhile_cons_of_pos digital, inductionHypothesis, and_self]
      · simp only [List.cons_append, List.takeWhile_cons_of_neg digital,
          List.dropWhile_cons_of_neg digital, and_self]
  rw [scanDigits] at found ⊢
  rw [cut.1, cut.2]
  split at found
  · cases found
  · rename_i some
    cases found
    exact if_neg some

/-- A fraction ends where it did. -/
theorem scanFraction_append_rest {digits : List Char} (ends : endsNumeral rest)
    (found : scanFraction text = .ok (digits, after)) :
    scanFraction (text ++ rest) = .ok (digits, after ++ rest) := by
  unfold scanFraction at found
  split at found
  · exact scanDigits_append_rest ends found
  · rename_i noPoint
    cases found
    unfold scanFraction
    split
    · rename_i later pointed
      cases text with
      | nil =>
        rw [List.nil_append] at pointed
        subst pointed
        cases ends
      | cons first others =>
        rw [List.cons_append, List.cons.injEq] at pointed
        exact absurd (pointed.1 ▸ rfl) (noPoint others)
    · rfl

/-- The sign of an exponent is the same with more behind it. -/
theorem exponentSign_append_rest (nonempty : text ≠ []) :
    exponentSign (text ++ rest) = ((exponentSign text).1, (exponentSign text).2 ++ rest) := by
  obtain ⟨first, later, rfl⟩ := List.exists_cons_of_ne_nil nonempty
  rw [List.cons_append]
  unfold exponentSign
  split
  · rename_i signed
    cases signed
    rfl
  · rename_i signed
    cases signed
    rfl
  · rename_i noMinus noPlus
    split
    · rename_i signed
      cases signed
      exact absurd rfl (noMinus _)
    · rename_i signed
      cases signed
      exact absurd rfl (noPlus _)
    · rfl

/-- An exponent ends where it did. -/
theorem scanExponent_append_rest {exponent : Option (Bool × List Char)} (ends : endsNumeral rest)
    (found : scanExponent text = .ok (exponent, after)) :
    scanExponent (text ++ rest) = .ok (exponent, after ++ rest) := by
  cases text with
  | nil =>
    cases found
    cases rest with
    | nil => rfl
    | cons letter later =>
      simp only [endsNumeral, Bool.and_eq_true, decide_eq_true_eq] at ends
      exact if_neg (not_or.mpr ⟨ends.1.2, ends.2⟩)
  | cons letter later =>
    rw [scanExponent] at found
    rw [List.cons_append, scanExponent]
    split at found
    · rename_i marked
      obtain ⟨digits, behind, scanned, whole⟩ := bind_append found
      cases whole
      change scanDigits (exponentSign later).2 = .ok (digits, after) at scanned
      have nonempty : later ≠ [] := by
        rintro rfl
        cases scanned
      rw [if_pos marked, exponentSign_append_rest nonempty]
      simp only [scanDigits_append_rest ends scanned, bind, Except.bind]
      rfl
    · rename_i unmarked
      cases found
      exact if_neg unmarked

/-- A numeral without its sign ends where it did. -/
theorem scanUnsigned_append_rest {negative : Bool} {numeral : Numeral} (ends : endsNumeral rest)
    (found : scanUnsigned negative text = .ok (numeral, after)) :
    scanUnsigned negative (text ++ rest) = .ok (numeral, after ++ rest) := by
  obtain ⟨whole, behindWhole, wholeFound, restFound⟩ := bind_append found
  obtain ⟨fraction, behindFraction, fractionFound, lastFound⟩ := bind_append restFound
  obtain ⟨exponent, behindExponent, exponentFound, last⟩ := bind_append lastFound
  cases last
  have wholeAgain : scanWhole (text ++ rest) = .ok (whole, behindWhole ++ rest) := by
    obtain ⟨digits, behindDigits, scanned, checked⟩ := bind_append wholeFound
    rw [scanWhole, scanDigits_append_rest ends scanned]
    dsimp only at checked
    split at checked
    · cases checked
    · rename_i plain
      cases checked
      exact if_neg plain
  rw [scanUnsigned, wholeAgain]
  simp only [scanFraction_append_rest ends fractionFound,
    scanExponent_append_rest ends exponentFound, bind, Except.bind]
  rfl

/-- A numeral ends where it did. -/
theorem scan_append_rest {numeral : Numeral} (ends : endsNumeral rest)
    (found : scan text = .ok (numeral, after)) :
    scan (text ++ rest) = .ok (numeral, after ++ rest) := by
  unfold scan at found
  split at found
  · exact scanUnsigned_append_rest ends found
  · rename_i unsigned
    unfold scan
    split
    · rename_i later signed
      cases text with
      | nil => cases found
      | cons first others =>
        rw [List.cons_append, List.cons.injEq] at signed
        exact absurd (signed.1 ▸ rfl) (unsigned others)
    · exact scanUnsigned_append_rest ends found

end Numeral

namespace Quoted

/-- A piece in front of the pieces of a string that is cut off. -/
theorem exists_of_withPiece {piece : Piece} {result : List Piece × Except Fault (List Char)}
    {found : List Piece} {after : List Char} (cut : withPiece piece result = (found, .ok after)) :
    ∃ later, found = piece :: later ∧ result = (later, .ok after) := by
  obtain ⟨pieces, ending⟩ := result
  cases cut
  exact ⟨pieces, rfl, rfl⟩

/-- A string that has an end has the same pieces and the same end with more behind it. -/
theorem pieces_append_rest {text after : List Char} {found : List Piece} (rest : List Char)
    (cut : pieces text = (found, .ok after)) :
    pieces (text ++ rest) = (found, .ok (after ++ rest)) := by
  fun_induction pieces text generalizing found after with
  | case2 text =>
    cases cut
    exact pieces_quotationMark (text ++ rest)
  | case4 first second third fourth text code digits _ inductionHypothesis =>
    obtain ⟨later, rfl, inside⟩ := exists_of_withPiece cut
    exact (pieces_codeUnit digits (text ++ rest)).trans
      (congrArg (withPiece (.codeUnit code)) (inductionHypothesis inside))
  | case7 letter text notDigits character escapes _ inductionHypothesis =>
    obtain ⟨later, rfl, inside⟩ := exists_of_withPiece cut
    exact (pieces_escape notDigits escapes (text ++ rest)).trans
      (congrArg (withPiece (.plain character)) (inductionHypothesis inside))
  | case10 character text noQuotationMark noBackslash visible inductionHypothesis =>
    obtain ⟨later, rfl, inside⟩ := exists_of_withPiece cut
    exact (pieces_plain noQuotationMark noBackslash visible (text ++ rest)).trans
      (congrArg (withPiece (.plain character)) (inductionHypothesis inside))
  | case1 | case3 | case5 | case6 | case8 | case9 => cases cut

/-- A string that breaks off nowhere is the same with more behind it. -/
theorem scan_append_rest {text after : List Char} {content : Lexeme String} (rest : List Char)
    (whole : content.skip = .ok ()) (found : scan text = (content, after)) :
    scan (text ++ rest) = (content, after ++ rest) := by
  unfold scan at found
  split at found
  · rename_i pieces behind cut
    rw [scan, pieces_append_rest rest cut]
    dsimp only
    split at found
    · cases found
      rfl
    · cases found
      rfl
  · split at found
    · cases found
      cases whole
    · cases found
      cases whole

end Quoted

namespace Token

/-- Whether a token can be passed over. -/
def Whole : Token → Prop
  | quoted text => text.skip = .ok ()
  | bare content => content.skip = .ok ()
  | stray => False
  | _ => True

variable {token : Token} {text after rest : List Char}

/-- A word ends behind its last letter. -/
theorem scanWord_append_rest {letters : List Char} (rest : List Char)
    (found : scanWord letters text = .ok after) :
    scanWord letters (text ++ rest) = .ok (after ++ rest) := by
  fun_induction scanWord letters text with
  | case1 text =>
    cases found
    rw [scanWord]
  | case2 => cases found
  | case3 letters text letter inductionHypothesis =>
    rw [List.cons_append, scanWord, if_pos rfl]
    exact inductionHypothesis found
  | case4 => cases found

/-- A word that is one token is the same with more behind it. -/
theorem word_append_rest {content : Bare} {letters : List Char} (rest : List Char)
    (whole : token.Whole) (cut : word content letters text = (token, after)) :
    word content letters (text ++ rest) = (token, after ++ rest) := by
  unfold word at cut
  split at cut
  · rename_i behind found
    cases cut
    rw [word, scanWord_append_rest rest found]
  · cases cut
    cases whole

/-- A number that is one token is the same with more behind it that no numeral goes on into. -/
theorem numeral_append_rest (ends : endsNumeral rest) (whole : token.Whole)
    (cut : numeral text = (token, after)) :
    numeral (text ++ rest) = (token, after ++ rest) := by
  unfold numeral at cut
  split at cut
  · rename_i scanned behind found
    cases cut
    rw [numeral, Numeral.scan_append_rest ends found]
  · cases cut
    cases whole

/-- A token that can be passed over is cut from a text in the same way with more behind it that no
numeral goes on into. -/
theorem next_append_rest {first : Char} (ends : endsNumeral rest) (whole : token.Whole)
    (cut : next first text = (token, after)) :
    next first (text ++ rest) = (token, after ++ rest) := by
  unfold next at cut
  split at cut
  case h_7 =>
    unfold string at cut
    cases cut
    exact congrArg (Prod.map Token.quoted id) (Quoted.scan_append_rest rest whole rfl)
  case h_8 | h_9 | h_10 => exact word_append_rest rest whole cut
  case h_11 =>
    split at cut
    · rename_i starts
      rw [next_of_starts starts]
      exact numeral_append_rest ends whole cut
    · cases cut
      cases whole
  all_goals
    cases cut
    rfl

end Token

/-! ## Neighbouring tokens -/

namespace Token

/-- Whether a token is a bracket, a comma or a colon. -/
def IsMark : Token → Prop
  | openArray | closeArray | openObject | closeObject | comma | colon => True
  | quoted _ | bare _ | stray => False

/-- A bracket, a comma and a colon are one character, whatever follows it. -/
theorem IsMark.next_eq {token : Token} (mark : token.IsMark) {first : Char} {text after : List Char}
    (cut : next first text = (token, after)) :
    first ∈ ['[', ']', '{', '}', ',', ':'] ∧ ∀ rest, next first rest = (token, rest) := by
  unfold next at cut
  split at cut
  case h_7 =>
    cases cut
    cases mark
  case h_8 | h_9 | h_10 =>
    unfold word at cut
    split at cut
    all_goals
      cases cut
      cases mark
  case h_11 =>
    split at cut
    · unfold numeral at cut
      split at cut
      all_goals
        cases cut
        cases mark
    · cases cut
      cases mark
  all_goals
    cases cut
    exact ⟨by decide, fun rest => rfl⟩

end Token

/-- Whether tokens stay apart without white space: of two neighbours one is a bracket, a comma or
a colon. -/
def Apart (tokens : List Token) : Prop :=
  tokens.IsChain fun left right => left.IsMark ∨ right.IsMark

/-- Whether tokens may stand behind any token without white space. -/
structure Follow (tokens : List Token) : Prop where
  marked : ∀ token ∈ tokens.head?, token.IsMark
  apart : Apart tokens

/-- Nothing may stand behind any token. -/
theorem follow_nil : Follow [] :=
  ⟨nofun, .nil⟩

/-- Any token stays apart from what may stand behind it. -/
theorem Follow.apart_cons {tokens : List Token} (follow : Follow tokens) (token : Token) :
    Apart (token :: tokens) :=
  List.isChain_cons.mpr ⟨fun next isNext => .inr (follow.marked next isNext), follow.apart⟩

/-- A bracket, a comma and a colon may stand behind any token, and anything behind them. -/
theorem follow_cons (token : Token) (mark : token.IsMark) {tokens : List Token}
    (apart : Apart tokens) : Follow (token :: tokens) := by
  refine ⟨fun first isFirst => ?_, List.isChain_cons.mpr ⟨fun _ _ => .inl mark, apart⟩⟩
  cases isFirst
  exact mark

/-- Lists of tokens stay apart if commas stand between them. -/
theorem apart_intercalate {lists : List (List Token)}
    (each : ∀ list ∈ lists, ∀ rest, Follow rest → Apart (list ++ rest)) {rest : List Token}
    (follow : Follow rest) : Apart (List.intercalate [.comma] lists ++ rest) := by
  have behind : ∀ later : List (List Token),
      (∀ list ∈ later, ∀ rest, Follow rest → Apart (list ++ rest)) →
      Follow (later.flatMap (.comma :: ·) ++ rest) := by
    intro later each
    induction later with
    | nil => exact follow
    | cons list others inductionHypothesis =>
      obtain ⟨first, eachLater⟩ := List.forall_mem_cons.mp each
      rw [List.flatMap_cons, List.cons_append, List.cons_append, List.append_assoc]
      exact follow_cons .comma trivial (first _ (inductionHypothesis eachLater))
  cases lists with
  | nil => exact follow.apart
  | cons list later =>
    obtain ⟨first, eachLater⟩ := List.forall_mem_cons.mp each
    rw [intercalate_cons, List.append_assoc]
    exact first _ (behind later eachLater)

/-- The tokens of a value stay apart. -/
theorem Tree.Forms.apart {tokens : List Token} {tree : Tree} (forms : Forms tokens tree)
    {rest : List Token} (follow : Follow rest) : Apart (tokens ++ rest) := by
  induction forms generalizing rest with
  | quoted text => exact follow.apart_cons _
  | bare content => exact follow.apart_cons _
  | array items _ each =>
    have closed : Follow (.closeArray :: rest) := follow_cons .closeArray trivial follow.apart
    have inside := apart_intercalate
      (List.forall_mem_map.mpr fun item member rest follow => each item member follow) closed
    rw [List.cons_append, List.append_assoc]
    exact (follow_cons .openArray trivial inside).apart
  | object members _ each =>
    have closed : Follow (.closeObject :: rest) := follow_cons .closeObject trivial follow.apart
    have member (part : Lexeme String × List Token × Tree) (isMember : part ∈ members)
        (rest : List Token) (follow : Follow rest) :
        Apart ((.quoted part.1 :: .colon :: part.2.1) ++ rest) :=
      (follow_cons .colon trivial (each part isMember follow)).apart_cons _
    have inside := apart_intercalate (List.forall_mem_map.mpr member) closed
    rw [List.cons_append, List.append_assoc]
    exact (follow_cons .openObject trivial inside).apart

/-! ## Texts that are made of tokens -/

/-- A text that is one token, which can be passed over. -/
structure TokenText where
  first : Char
  later : List Char
  token : Token
  solid : isSpace first = false
  cut : Token.next first later = (token, [])
  whole : token.Whole

namespace TokenText

/-- The characters of the text. -/
def text (part : TokenText) : List Char :=
  part.first :: part.later

variable {part : TokenText}

/-- The token is cut from its text whatever follows that no numeral goes on into. -/
theorem tokens_append {rest : List Char} (ends : endsNumeral rest) :
    tokens (part.text ++ rest) = part.token :: tokens rest :=
  tokens_of_next part.solid (Token.next_append_rest ends part.whole part.cut)

/-- No numeral goes on into a bracket, a comma or a colon. -/
theorem endsNumeral_of_isMark (mark : part.token.IsMark) (rest : List Char) :
    endsNumeral (part.text ++ rest) := by
  have noNumeral : ['[', ']', '{', '}', ',', ':'].all (fun first =>
      !first.isDigit && first ≠ '.' && first ≠ 'e' && first ≠ 'E') = true := by decide
  exact List.all_eq_true.mp noNumeral part.first (mark.next_eq part.cut).1

/-- A bracket, a comma and a colon are cut from their text whatever follows. -/
theorem tokens_append_of_isMark (mark : part.token.IsMark) (rest : List Char) :
    tokens (part.text ++ rest) = part.token :: tokens rest := by
  have alone : part.later = [] :=
    congrArg Prod.snd (((mark.next_eq part.cut).2 part.later).symm.trans part.cut)
  rw [text, alone]
  exact tokens_of_next part.solid ((mark.next_eq part.cut).2 rest)

end TokenText

/-- A text that is made of the texts of tokens in their order, with any white space before,
between and behind them. -/
inductive Spaced : List TokenText → List Char → Prop
  | nil {blank : List Char} (white : ∀ character ∈ blank, isSpace character) : Spaced [] blank
  | cons {blank : List Char} (white : ∀ character ∈ blank, isSpace character) {part : TokenText}
      {parts : List TokenText} {rest : List Char} (later : Spaced parts rest) :
      Spaced (part :: parts) (blank ++ (part.text ++ rest))

/-- No numeral goes on into a text that starts with a bracket, a comma or a colon, perhaps behind
white space. -/
theorem Spaced.endsNumeral {parts : List TokenText} {text : List Char}
    (spaced : Spaced parts text)
    (marked : ∀ token ∈ (parts.map TokenText.token).head?, token.IsMark) :
    endsNumeral text := by
  cases spaced with
  | nil white =>
    have ends : CardLimits.Json.endsNumeral (text ++ []) := endsNumeral_blank white rfl
    rwa [List.append_nil] at ends
  | cons white later =>
    exact endsNumeral_blank white (TokenText.endsNumeral_of_isMark (marked _ rfl) _)

/-- A text that is made of tokens that stay apart has these tokens, whatever the white space
is. -/
theorem tokens_of_spaced {parts : List TokenText} {text : List Char}
    (spaced : Spaced parts text) (apart : Apart (parts.map TokenText.token)) :
    tokens text = parts.map TokenText.token := by
  induction spaced with
  | nil white =>
    have cut := tokens_blank white []
    rwa [List.append_nil, tokens] at cut
  | @cons blank white part parts rest later inductionHypothesis =>
    obtain ⟨apartFirst, apartLater⟩ := List.isChain_cons.mp apart
    rw [tokens_blank white, List.map_cons, ← inductionHypothesis apartLater]
    by_cases mark : part.token.IsMark
    · exact TokenText.tokens_append_of_isMark mark rest
    · have marked : ∀ next ∈ (parts.map TokenText.token).head?, next.IsMark :=
        fun next isNext => (apartFirst next isNext).resolve_left mark
      exact TokenText.tokens_append (later.endsNumeral marked)

end CardLimits.Json
