import CardLimits.Json.ReadFault
/-!
# Reading and writing values of a type

A codec reads a tree as a value of a type and writes such a value as JSON.  A tree
comes from a text that is being read for the first time, with a limit on nesting,
or it has been read whole before, as a free value, and is now looked at again.  In
the second case there is nothing wrong with the text any more, and a few wrong
shapes are told apart that the first case calls malformed.
-/

namespace CardLimits.Json

/-- Where the tree that a reader looks at comes from. -/
inductive Source where
  /-- A text that is being read; one less than `room` arrays and objects may still
  be nested. -/
  | text (room : Nat)
  /-- A value that was read whole before. -/
  | settled
deriving DecidableEq, Repr

/-- The source of a whole text, in which 127 arrays and objects may be nested. -/
def Source.whole : Source :=
  .text 128

/-- The source of what stands inside an array or object. -/
def Source.enter : Source → Except ReadFault Source
  | text room => if room ≤ 1 then .error (.text .tooDeep) else .ok (text (room - 1))
  | settled => .ok settled

/-- Reads a whole text; only white space may follow the value. -/
def readWhole {α : Type} (read : Source → Tree → Except ReadFault α) (text : String) :
    Except ReadFault α := do
  let (tree, rest) := Tree.ofTokens (tokens text.toList)
  let value ← read .whole tree
  if rest.isEmpty then return value else throw (.text .trailingText)

/-- How values of a type are read and written. -/
structure Codec (α : Type) where
  read : Source → Tree → Except ReadFault α
  write : α → Json

namespace Codec

/-- Reads a whole text. -/
def readText {α : Type} (codec : Codec α) (text : String) : Except ReadFault α :=
  readWhole codec.read text

/-- The compact text of a value. -/
def writeText {α : Type} (codec : Codec α) (value : α) : String :=
  (codec.write value).toCompactString

/-- Texts. -/
def string : Codec String where
  read _ tree := do
    match ← tree.found with
    | .string text => return text
    | found => throw (.mismatch found .string)
  write := .string

/-- Truth values. -/
def boolean : Codec Bool where
  read _ tree := do
    match ← tree.found with
    | .bool flag => return flag
    | found => throw (.mismatch found .boolean)
  write := .bool

/-- An integer type as readers see it: its name, its range and its values. -/
structure Width (α : Type) where
  expected : Expected
  ofInt? : Int → Option α
  toInt : α → Int

/-- Integers of a type.  Only integer notation is accepted, and only in range. -/
def integer {α : Type} (width : Width α) : Codec α where
  read _ tree := do
    match ← tree.found with
    | .number (.integer value) =>
      match width.ofInt? value with
      | some held => return held
      | none => throw (.unsuitable (.number (.integer value)) width.expected)
    | found => throw (.mismatch found width.expected)
  write value := .integer (width.toInt value)

/-- 32-bit signed integers. -/
def int32 : Codec Int32 := integer {
  expected := .int32
  ofInt? := fun value =>
    if Int32.minValue.toInt ≤ value ∧ value ≤ Int32.maxValue.toInt then
      some (Int32.ofInt value)
    else none
  toInt := Int32.toInt }

/-- 64-bit signed integers. -/
def int64 : Codec Int64 := integer {
  expected := .int64
  ofInt? := fun value =>
    if Int64.minValue.toInt ≤ value ∧ value ≤ Int64.maxValue.toInt then
      some (Int64.ofInt value)
    else none
  toInt := Int64.toInt }

/-- 64-bit unsigned integers, used for sizes. -/
def size : Codec UInt64 := integer {
  expected := .size
  ofInt? := fun value =>
    if 0 ≤ value ∧ value < UInt64.size then some (UInt64.ofNat value.toNat) else none
  toInt := fun value => value.toNat }

/-- A value that may be absent, written as `null`. -/
def optional {α : Type} (codec : Codec α) : Codec (Option α) where
  read source tree :=
    match tree with
    | .bare (.value .null) => .ok none
    | tree => (codec.read source tree).map some
  write
    | some value => codec.write value
    | none => .null

/-- Lists, in arrays. -/
def list {α : Type} (codec : Codec α) : Codec (List α) where
  read source tree :=
    match tree with
    | .array items ending => do
      let inside ← source.enter
      let values ← items.mapM (codec.read inside)
      liftFault ending.check
      return values
    | tree => tree.mismatch .sequence
  write values := .array (values.map codec.write)

/-- The members of an object under their names, all values read alike. -/
def readMembers {α : Type} (read : Tree → Except ReadFault α)
    (members : List (Lexeme String × Tree)) : Except ReadFault (List (String × α)) :=
  members.mapM fun (name, tree) => do
    let name ← liftFault name.read
    let value ← read tree
    return (name, value)

/-- Tables, in objects; of two members with one name the later wins. -/
def table {α : Type} (codec : Codec α) : Codec (Table α) where
  read source tree :=
    match tree with
    | .object members ending => do
      let inside ← source.enter
      let entries ← readMembers (codec.read inside) members
      liftFault ending.check
      return .ofList entries
    | tree => tree.mismatch .map
  write values := .object (values.entries.map fun (name, value) => (name, codec.write value))

/-- Tables that are written in some order of their entries. -/
def tableArranged {α : Type} (arrange : List (String × α) → List (String × α))
    (codec : Codec α) : Codec (Table α) :=
  { table codec with
    write := fun values =>
      .object ((arrange values.entries).map fun (name, value) => (name, codec.write value)) }

end Codec

end CardLimits.Json
