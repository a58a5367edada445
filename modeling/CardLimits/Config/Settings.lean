import CardLimits.Text.Alphanumeric
import CardLimits.Text.Blank
/-!
# Files of settings

A file of settings has one `NAME=value` to a line.  A line may be empty or a comment
that starts with `#`.  Blanks at its ends and around the name do not count, and
`export` may stand before the name.

A value may be quoted, in whole or in part.  Between single quotation marks every
character stands for itself.  Elsewhere a backslash takes its meaning from the
character behind it, and a dollar sign with a name, of letters and digits of any script,
stands for the value of another variable.  The value ends at a space or tab outside
quotations, behind which only a comment may follow.

`lines` divides a text into lines without reading them.  An open quotation holds lines
together, and a number sign right behind a blank cuts the rest of the line off.  Of
blanks in a row only every other one is a blank in this sense, and a text does not
end right behind one.  `ofText` reads the lines up to the first that does not fit;
the lines before it count.
-/

namespace CardLimits

/-- Variables and their values, in the order in which they were set. -/
abbrev Variables := List (String × String)

namespace Settings

open Text

/-! ## Lines -/

/-- A kind of quotation mark. -/
inductive Mark where
  | single
  | double
deriving DecidableEq, Repr

/-- The quotation mark itself. -/
def Mark.character : Mark → Char
  | single => '\x27'
  | double => '"'

/-- Where the division of a text stands. -/
inductive Place where
  /-- At the start of a line, perhaps behind blanks. -/
  | start
  | plain
  /-- Right behind a blank. -/
  | blank
  /-- Right behind a backslash. -/
  | escape
  | quotation (mark : Mark)
  /-- Right behind a backslash in a quotation. -/
  | quotedEscape (mark : Mark)
  | comment
deriving DecidableEq, Repr

namespace Place

/-- The place behind a character that is neither a blank nor quoted. -/
def behind (character : Char) : Place :=
  if character = '\\' then escape
  else if character = Mark.single.character then quotation .single
  else if character = Mark.double.character then quotation .double
  else plain

/-- The place behind the next character of a line. -/
def next (character : Char) : Place → Place
  | start =>
    if isBlank character then start else if character = '#' then comment else behind character
  | plain => if isBlank character && character ≠ '\r' then blank else behind character
  | blank => if character = '#' then comment else behind character
  | escape => plain
  | quotation mark =>
    if character = '\\' then quotedEscape mark
    else if character = mark.character then plain
    else quotation mark
  | quotedEscape mark => quotation mark
  | comment => comment

/-- Whether a line feed ends the line. -/
def endsLine : Place → Bool
  | quotation _ | quotedEscape _ => false
  | _ => true

/-- Whether the text may end. -/
def mayEnd : Place → Bool
  | start | plain | comment => true
  | _ => false

end Place

/-- The rest of the current line, without a comment, and the lines behind it.  If the
text ends where it may not, its last line is missing. -/
def linesFrom (place : Place) : List Char → List (List Char)
  | [] => if place.mayEnd then [[]] else []
  | character :: rest =>
    if character = '\n' && place.endsLine then [] :: linesFrom .start rest
    else
      let next := place.next character
      if next = .comment then linesFrom next rest
      else (linesFrom next rest).modifyHead (character :: ·)

/-- The lines of a text. -/
def lines : List Char → List (List Char) :=
  linesFrom .start

/-! ## Values -/

/-- Where the reading of a value stands.  `quoted` says whether that is inside double
quotation marks. -/
inductive Spot where
  | bare
  | quotation (mark : Mark)
  /-- Right behind a backslash. -/
  | escape (quoted : Bool)
  /-- Behind a dollar sign and the start of a name. -/
  | name (quoted : Bool) (start : List Char)
  /-- Behind a dollar sign, an opening brace and the start of a name. -/
  | braced (quoted : Bool) (start : List Char)
  /-- Behind the value. -/
  | done

/-- The spot after an escape or a name. -/
def Spot.inside (quoted : Bool) : Spot :=
  if quoted then quotation .double else bare

/-- The character that a backslash and a character stand for. -/
def escaped? (character : Char) : Option Char :=
  match character with
  | '\\' | '\x27' | '"' | '$' | ' ' => some character
  | 'n' => some '\n'
  | _ => none

/-- Whether a character ends a value outside quotations. -/
def endsValue (character : Char) : Bool :=
  character = ' ' || character = '\t'

/-- What the rest of a value stands for, given the values of variables; none if it
does not fit. -/
def valueFrom (valueOf : List Char → List Char) : Spot → List Char → Option (List Char)
  | .bare, [] => some []
  | .done, [] => some []
  | .escape false, [] => some []
  | .name false name, [] => some (valueOf name)
  | _, [] => none
  | .bare, character :: rest =>
    if character = '$' then valueFrom valueOf (.name false []) rest
    else if character = Mark.single.character then valueFrom valueOf (.quotation .single) rest
    else if character = Mark.double.character then valueFrom valueOf (.quotation .double) rest
    else if character = '\\' then valueFrom valueOf (.escape false) rest
    else if endsValue character then valueFrom valueOf .done rest
    else (valueFrom valueOf .bare rest).map (character :: ·)
  | .quotation .single, character :: rest =>
    if character = Mark.single.character then valueFrom valueOf .bare rest
    else (valueFrom valueOf (.quotation .single) rest).map (character :: ·)
  | .quotation .double, character :: rest =>
    if character = '$' then valueFrom valueOf (.name true []) rest
    else if character = Mark.double.character then valueFrom valueOf .bare rest
    else if character = '\\' then valueFrom valueOf (.escape true) rest
    else (valueFrom valueOf (.quotation .double) rest).map (character :: ·)
  | .escape quoted, character :: rest =>
    match escaped? character with
    | some meant => (valueFrom valueOf (.inside quoted) rest).map (meant :: ·)
    | none => none
  | .name quoted name, character :: rest =>
    if isAlphanumeric character then valueFrom valueOf (.name quoted (name ++ [character])) rest
    else if character = '{' && name.isEmpty then valueFrom valueOf (.braced quoted []) rest
    else if character = '$' then
      (valueFrom valueOf (.name quoted []) rest).map (valueOf name ++ ·)
    else (valueFrom valueOf (.inside quoted) rest).map (valueOf name ++ character :: ·)
  | .braced quoted name, character :: rest =>
    if character = '}' then (valueFrom valueOf (.inside quoted) rest).map (valueOf name ++ ·)
    else valueFrom valueOf (.braced quoted (name ++ [character])) rest
  | .done, character :: rest =>
    if endsValue character then valueFrom valueOf .done rest
    else if character = '#' then some []
    else none

/-- The value that follows an equals sign; none if it does not fit. -/
def value? (valueOf : List Char → List Char) (text : List Char) : Option (List Char) :=
  let text := text.dropWhile isBlank
  if text.head? = some '#' then some [] else valueFrom valueOf .bare text

/-! ## Settings -/

/-- Whether the name of a variable may start with a character. -/
def startsName (character : Char) : Bool :=
  character.isAlpha || character = '_'

/-- Whether the name of a variable may go on with a character. -/
def continuesName (character : Char) : Bool :=
  character.isAlphanum || character = '_' || character = '.'

/-- The name at the start of a line, and what follows it. -/
def name? (line : List Char) : Option (List Char × List Char) :=
  if line.head?.any startsName then
    some (line.takeWhile continuesName, line.dropWhile continuesName)
  else none

/-- What follows an equals sign, which may have blanks in front. -/
def afterEquals? (line : List Char) : Option (List Char) :=
  match line.dropWhile isBlank with
  | '=' :: rest => some rest
  | _ => none

/-- The name that a line sets, and what follows the equals sign. -/
def assignment? (line : List Char) : Option (List Char × List Char) := do
  let (name, rest) ← name? line
  match afterEquals? rest with
  | some value => return (name, value)
  | none =>
    if name = "export".toList then
      let (name, rest) ← name? (rest.dropWhile isBlank)
      return (name, ← afterEquals? rest)
    else none

/-- What a line sets, given the variables so far: nothing, or a variable.  None if the
line does not fit. -/
def setting? (known : Variables) (line : List Char) : Option (Option (String × String)) :=
  let line := trim line
  if line.isEmpty || line.head? = some '#' then some none
  else do
    let (name, rest) ← assignment? line
    let valueOf := fun name => ((known.lookup (String.ofList name)).getD "").toList
    let value ← value? valueOf rest
    return some (String.ofList name, String.ofList value)

/-- What the lines set, given the variables so far, up to the first line that does not
fit. -/
def ofLines (known : Variables) : List (List Char) → Variables
  | [] => []
  | first :: rest =>
    match setting? known first with
    | none => []
    | some none => ofLines known rest
    | some (some setting) => setting :: ofLines (known ++ [setting]) rest

/-- What a text sets, given the variables of the process.  A byte order mark at its
start does not count. -/
def ofText (process : Variables) (text : String) : Variables :=
  ofLines process <| lines <|
    match text.toList with
    | '\uFEFF' :: rest => rest
    | characters => characters

end Settings

end CardLimits
