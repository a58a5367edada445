import CardLimits.Json.Lexeme
import CardLimits.Text.Hex
/-!
# Strings as they are written

Between its quotation marks a string is a sequence of pieces: characters, given
as they are or by a one-letter escape, and UTF-16 code units given by four
hexadecimal digits.  Skipping a string looks no further than the pieces.  Reading
it pairs the code units up; a surrogate without its partner makes the string
valueless.
-/

namespace CardLimits.Json

open Text (hexDigit?)

/-- One piece of a written string. -/
inductive Piece where
  | plain (character : Char)
  | codeUnit (code : Nat)
deriving DecidableEq, Repr

namespace Quoted

/-- The code unit that four hexadecimal digits stand for. -/
def codeUnit? (first second third fourth : Char) : Option Nat := do
  return ((← hexDigit? first) * 16 + (← hexDigit? second)) * 256 +
    ((← hexDigit? third) * 16 + (← hexDigit? fourth))

/-- The character that a one-letter escape stands for. -/
def escaped? : Char → Option Char
  | '"' => some '"'
  | '\\' => some '\\'
  | '/' => some '/'
  | 'b' => some '\x08'
  | 'f' => some '\x0c'
  | 'n' => some '\n'
  | 'r' => some '\r'
  | 't' => some '\t'
  | _ => none

/-- Four digits are due and fewer than four characters are left.  The text counts
as ended only when it has fewer than four bytes left. -/
def shortEscape (rest : List Char) : Fault :=
  if (String.ofList rest).utf8ByteSize < 4 then .endInString else .badDigits

/-- Puts a piece in front of what the rest of a string came to. -/
def withPiece (piece : Piece) (result : List Piece × Except Fault (List Char)) :
    List Piece × Except Fault (List Char) :=
  (piece :: result.1, result.2)

/-- The pieces of a string after its opening quotation mark, and what follows its
closing one, if it is reached. -/
def pieces : List Char → List Piece × Except Fault (List Char)
  | [] => ([], .error .endInString)
  | character :: rest =>
    if character = '"' then ([], .ok rest)
    else if character = '\\' then
      match rest with
      | [] => ([], .error .endInString)
      | letter :: rest =>
        if letter = 'u' then
          match rest with
          | first :: second :: third :: fourth :: rest =>
            match codeUnit? first second third fourth with
            | some code => withPiece (.codeUnit code) (pieces rest)
            | none => ([], .error .badDigits)
          | short => ([], .error (shortEscape short))
        else
          match escaped? letter with
          | some character => withPiece (.plain character) (pieces rest)
          | none => ([], .error .unknownEscape)
    else if character.toNat < 0x20 then ([], .error .controlCharacter)
    else withPiece (.plain character) (pieces rest)

/-- Whether a code unit is the first half of a surrogate pair. -/
def isLeading (code : Nat) : Bool :=
  0xD800 ≤ code && code ≤ 0xDBFF

/-- Whether a code unit is the second half of a surrogate pair. -/
def isTrailing (code : Nat) : Bool :=
  0xDC00 ≤ code && code ≤ 0xDFFF

/-- The character that a surrogate pair stands for. -/
def ofPair (leading trailing : Nat) : Char :=
  Char.ofNat (0x10000 + (leading - 0xD800) * 0x400 + (trailing - 0xDC00))

/-- The fault of a leading surrogate that is the last piece, by the fault at the end
of the pieces.  Its partner was still to come, so an end of the text and digits that
are no code unit are reported as such; anything else is just not a partner. -/
def unpaired : Option Fault → Fault
  | some .endInString => .endInString
  | some .badDigits => .badDigits
  | _ => .halfPair

/-- The characters that pieces stand for.  `ending` is the fault at their end. -/
def characters (ending : Option Fault) : List Piece → Except Fault (List Char)
  | [] =>
    match ending with
    | none => .ok []
    | some fault => .error fault
  | .plain character :: rest => (characters ending rest).map (character :: ·)
  | .codeUnit code :: rest =>
    if isTrailing code then .error .brokenPair
    else if isLeading code then
      match rest with
      | [] => .error (unpaired ending)
      | .plain _ :: _ => .error .halfPair
      | .codeUnit partner :: rest =>
        if isTrailing partner then (characters ending rest).map (ofPair code partner :: ·)
        else .error .brokenPair
    else (characters ending rest).map (Char.ofNat code :: ·)

/-- The string after an opening quotation mark, and what follows it. -/
def scan (text : List Char) : Lexeme String × List Char :=
  match pieces text with
  | (found, .ok rest) =>
    match characters none found with
    | .ok content => (.value (String.ofList content), rest)
    | .error fault => (.valueless fault, rest)
  | (found, .error fault) =>
    match characters (some fault) found with
    | .ok _ => (.broken (.both fault), [])
    | .error reading => (.broken ⟨reading, fault⟩, [])

/-- What follows a string is shorter than the string and what follows it. -/
theorem length_rest_le (text : List Char) :
    ∀ rest, (pieces text).2 = .ok rest → rest.length ≤ text.length := by
  fun_induction pieces text with
  | case1 => simp
  | case2 rest => intro after equal; simp at equal; subst equal; simp
  | case3 => simp
  | case4 first second third fourth rest code _ _ inductionHypothesis =>
    intro after equal
    have bound := inductionHypothesis after equal
    simp only [List.length_cons]
    omega
  | case5 => simp
  | case6 => simp
  | case7 letter rest _ character _ _ inductionHypothesis =>
    intro after equal
    have bound := inductionHypothesis after equal
    simp only [List.length_cons]
    omega
  | case8 => simp
  | case9 => simp
  | case10 character rest _ _ _ inductionHypothesis =>
    intro after equal
    have bound := inductionHypothesis after equal
    simp only [List.length_cons]
    omega

/-- Scanning a string never lengthens the text. -/
theorem length_scan_le (text : List Char) : (scan text).2.length ≤ text.length := by
  have bound := length_rest_le text
  unfold scan
  split
  · rename_i found rest equal
    have := bound rest (by rw [equal])
    split <;> simpa using this
  · split <;> simp

end Quoted

end CardLimits.Json
