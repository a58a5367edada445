import CardLimits.Json.Codec
/-!
# Free values

Where a record leaves the shape of a value open, any value at all may stand.  There
an object whose first member has the name `Free.textName` is not meant as an object:
that member is its only one and holds the text of the value that is meant.  Such a
text is read like any whole text, and may itself hold values that are given by their
text.

A value that is only set aside for a later reader is not looked at in this way yet.
-/

namespace CardLimits.Json

/-- A bare value as a JSON value. -/
def Bare.json : Bare → Json
  | null => .null
  | bool flag => .bool flag
  | number value => .number value

namespace Free

/-- The name of the member that holds the text of a value. -/
def textName : String := "$serde_json::private::RawValue"

/-- Reads the text of a value. -/
def readValueText (tree : Tree) : Except ReadFault String := do
  match ← tree.found with
  | .string text => return text
  | found => throw (.mismatch found .valueText)

/-- The failure of an object that does not end behind the text of a value, given the
members that follow. -/
def checkAlone (source : Source) (further : List (Lexeme String × Tree)) (ending : Ending) :
    Except ReadFault Unit :=
  match source, further with
  | .text _, [] => liftFault ending.checkLast
  | .text _, _ => .error (.text .trailingComma)
  | .settled, [] => .ok ()
  | .settled, further => .error (.wrongLength (further.length + 1) (.members 1))

/-- Reads any value, given a reader of texts of values. -/
def readWith (ofText : String → Except ReadFault Json) (source : Source) :
    Tree → Except ReadFault Json
  | .quoted text => liftFault (text.read.map .string)
  | .bare content => liftFault (content.read.map Bare.json)
  | .array items ending => do
    let inside ← source.enter
    let values ← readItems inside items
    liftFault ending.check
    return .array values
  | .object [] ending => do
    let _ ← source.enter
    liftFault ending.check
    return .ofTable .empty
  | .object ((name, tree) :: rest) ending => do
    let inside ← source.enter
    let name ← liftFault name.read
    if name = textName then
      let value ← ofText (← readValueText tree)
      checkAlone inside rest ending
      return value
    else
      let value ← readWith ofText inside tree
      let entries ← readEntries inside rest
      liftFault ending.check
      return .ofTable (.ofList ((name, value) :: entries))
  | .missing fault => .error (.text fault)
where
  readItems (source : Source) : List Tree → Except ReadFault (List Json)
    | [] => .ok []
    | item :: rest => do
      let value ← readWith ofText source item
      let values ← readItems source rest
      return value :: values
  readEntries (source : Source) :
      List (Lexeme String × Tree) → Except ReadFault (List (String × Json))
    | [] => .ok []
    | (name, tree) :: rest => do
      let name ← liftFault name.read
      let value ← readWith ofText source tree
      let entries ← readEntries source rest
      return (name, value) :: entries

/-- Reads the text of a value, in which texts of values stand less than `depth` deep
inside each other. -/
def ofText : (depth : Nat) → String → Except ReadFault Json
  | 0, _ => .error (.text .tooDeep)
  | depth + 1, text => (readWhole (readWith (ofText depth)) text).mapError .inside

/-- Reads any value.  A text inside another is shorter than the other, so the length
of a text bounds how deep there are texts in it. -/
def read : Source → Tree → Except ReadFault Json :=
  readWith fun text => ofText (text.length + 1) text

/-- Reads a value that is set aside for a later reader. -/
def setAside (source : Source) : Tree → Except ReadFault Unit
  | .quoted text => liftFault (text.read.map fun _ => ())
  | .bare content => liftFault (content.read.map fun _ => ())
  | .array items ending => do
    let inside ← source.enter
    setAsideItems inside items
    liftFault ending.check
  | .object members ending => do
    let inside ← source.enter
    setAsideMembers inside members
    liftFault ending.check
  | .missing fault => .error (.text fault)
where
  setAsideItems (source : Source) : List Tree → Except ReadFault Unit
    | [] => .ok ()
    | item :: rest => do
      setAside source item
      setAsideItems source rest
  setAsideMembers (source : Source) : List (Lexeme String × Tree) → Except ReadFault Unit
    | [] => .ok ()
    | (name, tree) :: rest => do
      let _ ← liftFault name.read
      setAside source tree
      setAsideMembers source rest

end Free

/-- Any value at all. -/
def Codec.free : Codec Json where
  read := Free.read
  write value := value

end CardLimits.Json
