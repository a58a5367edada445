import CardLimits.Json.Printer
import CardLimits.Json.Tree
import CardLimits.Text.Shown
/-!
# Why a text was not accepted

A text fails either as JSON (`Fault`) or, being JSON as far as it was read, by not
having the shape that was asked for.  `ReadFault.message` gives the wording.
-/

namespace CardLimits.Json

/-- What stands where something else was expected. -/
inductive Found where
  | null
  | bool (flag : Bool)
  | number (value : Number)
  | string (text : String)
  | sequence
  | map
deriving Repr

/-- What a reader expected. -/
inductive Expected where
  | string
  | boolean
  | int32
  | int64
  | size
  | sequence
  | map
  | unit
  | stringOrMap
  | singleEntry
  | record (name : String)
  /-- A record with its number of fields. -/
  | recordOf (name : String) (fields : Nat)
  /-- A number of items and no more. -/
  | items (count : Nat)
  /-- A number of members and no more. -/
  | members (count : Nat)
  /-- The text of a value. -/
  | valueText
deriving DecidableEq, Repr

/-- Why a value could not be read. -/
inductive ReadFault where
  | text (fault : Fault)
  /-- A value of another kind. -/
  | mismatch (found : Found) (expected : Expected)
  /-- A value of the right kind that is not allowed. -/
  | unsuitable (found : Found) (expected : Expected)
  | missingField (name : String)
  | duplicateField (name : String)
  | wrongLength (length : Nat) (expected : Expected)
  /-- A value given by its text, and what is wrong with that text. -/
  | inside (fault : ReadFault)
deriving Repr

/-- The wording of what was found. -/
def Found.message : Found → String
  | null => "null"
  | bool flag => "boolean `" ++ (if flag then "true" else "false") ++ "`"
  | number (.integer value) => "integer `" ++ String.ofList (integerText value) ++ "`"
  | number (.double value) => "floating point `" ++ String.ofList (doubleText value) ++ "`"
  | string text => "string " ++ Text.shown text
  | sequence => "sequence"
  | map => "map"

/-- A count of elements, with its noun. -/
def elementsMessage (count : Nat) : String :=
  toString count ++ if count = 1 then " element" else " elements"

/-- The wording of what was expected. -/
def Expected.message : Expected → String
  | string => "a string"
  | boolean => "a boolean"
  | int32 => "i32"
  | int64 => "i64"
  | size => "usize"
  | sequence => "a sequence"
  | map => "a map"
  | unit => "unit"
  | stringOrMap => "string or map"
  | singleEntry => "map with a single key"
  | record name => "struct " ++ name
  | recordOf name fields => "struct " ++ name ++ " with " ++ elementsMessage fields
  | items count => elementsMessage count ++ " in sequence"
  | members count => elementsMessage count ++ " in map"
  | valueText => "raw value"

/-- The wording of a failure. -/
def ReadFault.message : ReadFault → String
  | text fault => fault.message
  | mismatch found expected =>
    "invalid type: " ++ found.message ++ ", expected " ++ expected.message
  | unsuitable found expected =>
    "invalid value: " ++ found.message ++ ", expected " ++ expected.message
  | missingField name => "missing field `" ++ name ++ "`"
  | duplicateField name => "duplicate field `" ++ name ++ "`"
  | wrongLength length expected =>
    "invalid length " ++ toString length ++ ", expected " ++ expected.message
  | inside fault => fault.message

/-- Whether the text is no JSON, ends too early, or has the wrong shape. -/
inductive Category where
  | malformed
  | truncated
  | wrongShape
deriving DecidableEq, Repr

/-- The kind of a failure. -/
def ReadFault.category : ReadFault → Category
  | text fault => if fault.isEarlyEnd then .truncated else .malformed
  | _ => .wrongShape

/-- A bare value as something found. -/
def Bare.found : Bare → Found
  | null => .null
  | bool flag => .bool flag
  | number value => .number value

/-- Carries a fault of the text over to readers. -/
def liftFault {α : Type} : Except Fault α → Except ReadFault α
  | .ok value => .ok value
  | .error fault => .error (.text fault)

/-- What a tree holds, read only as far as a message shows it. -/
def Tree.found : Tree → Except ReadFault Found
  | quoted text => liftFault (text.read.map .string)
  | bare content => liftFault (content.read.map Bare.found)
  | array _ _ => .ok .sequence
  | object _ _ => .ok .map
  | missing fault => .error (.text fault)

/-- The failure of finding a tree where something else was expected. -/
def Tree.mismatch {α : Type} (tree : Tree) (expected : Expected) : Except ReadFault α := do
  let found ← tree.found
  throw (.mismatch found expected)

end CardLimits.Json
