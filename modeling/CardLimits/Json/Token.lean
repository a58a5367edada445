import CardLimits.Json.Numeral
import CardLimits.Json.Quoted
/-!
# JSON tokens

`tokens` cuts a text into its tokens and drops the white space between them.  The
list ends early behind a token that both reading and skipping refuse, since
nothing after it can matter.
-/

namespace CardLimits.Json

/-- The values that are neither strings nor made of other values. -/
inductive Bare where
  | null
  | bool (flag : Bool)
  | number (value : Number)
deriving Repr

/-- A token. -/
inductive Token where
  | openArray
  | closeArray
  | openObject
  | closeObject
  | comma
  | colon
  | quoted (text : Lexeme String)
  | bare (content : Lexeme Bare)
  /-- A character that no token starts with. -/
  | stray
deriving Repr

/-- The white space of JSON. -/
def isSpace (character : Char) : Bool :=
  character = ' ' || character = '\t' || character = '\n' || character = '\r'

namespace Token

/-- What follows the given letters, which are due next. -/
def scanWord : List Char → List Char → Except Fault (List Char)
  | [], rest => .ok rest
  | _ :: _, [] => .error .endInValue
  | letter :: letters, character :: rest =>
    if character = letter then scanWord letters rest else .error .unknownWord

/-- A word, of which the first letter is known. -/
def word (content : Bare) (letters rest : List Char) : Token × List Char :=
  match scanWord letters rest with
  | .ok rest => (.bare (.value content), rest)
  | .error fault => (.bare (.broken (.both fault)), [])

/-- A number. -/
def numeral (text : List Char) : Token × List Char :=
  match Numeral.scan text with
  | .ok (numeral, rest) => (.bare (numeral.lexeme.map .number), rest)
  | .error place => (.bare (.broken place), [])

/-- A string after its opening quotation mark. -/
def string (text : List Char) : Token × List Char :=
  let (lexeme, rest) := Quoted.scan text
  (.quoted lexeme, rest)

/-- The token that starts with a character, and what follows the token. -/
def next (character : Char) (rest : List Char) : Token × List Char :=
  match character with
  | '[' => (.openArray, rest)
  | ']' => (.closeArray, rest)
  | '{' => (.openObject, rest)
  | '}' => (.closeObject, rest)
  | ',' => (.comma, rest)
  | ':' => (.colon, rest)
  | '"' => string rest
  | 'n' => word .null ['u', 'l', 'l'] rest
  | 't' => word (.bool true) ['r', 'u', 'e'] rest
  | 'f' => word (.bool false) ['a', 'l', 's', 'e'] rest
  | _ => if Numeral.starts character then numeral (character :: rest) else (.stray, [])

/-- What follows a word is not longer than the text after its first letter. -/
theorem length_word_le (content : Bare) (letters rest : List Char) :
    (word content letters rest).2.length ≤ rest.length := by
  have bound : ∀ after, scanWord letters rest = .ok after → after.length ≤ rest.length := by
    fun_induction scanWord letters rest with
    | case1 => intro after equal; simp at equal; simp [equal]
    | case2 => simp
    | case3 letters rest letter inductionHypothesis =>
      intro after equal
      have := inductionHypothesis after equal
      simp only [List.length_cons]
      omega
    | case4 => simp
  unfold word
  split
  · rename_i after equal
    exact bound after equal
  · simp

/-- What follows a number is shorter than the text from its first character. -/
theorem length_numeral_lt (text : List Char) (nonempty : text ≠ []) :
    (numeral text).2.length < text.length := by
  unfold numeral
  split
  · rename_i found
    exact Numeral.length_scan_lt found
  · simpa using List.length_pos_iff.mpr nonempty

/-- What follows a token is not longer than the text after its first character. -/
theorem length_next_le (character : Char) (rest : List Char) :
    (next character rest).2.length ≤ rest.length := by
  unfold next
  split <;> try exact Nat.le_refl _
  · exact Quoted.length_scan_le rest
  · exact length_word_le ..
  · exact length_word_le ..
  · exact length_word_le ..
  · split
    · have shorter := length_numeral_lt (character :: rest) (by simp)
      simp only [List.length_cons] at shorter
      omega
    · simp

end Token

/-- The tokens of a text. -/
def tokens : List Char → List Token
  | [] => []
  | character :: rest =>
    if isSpace character then tokens rest
    else (Token.next character rest).1 :: tokens (Token.next character rest).2
termination_by text => text.length
decreasing_by
  · simp
  · have bound := Token.length_next_le character rest
    simp only [List.length_cons]
    omega

end CardLimits.Json
