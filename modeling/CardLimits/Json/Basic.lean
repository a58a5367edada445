import CardLimits.Table
/-!
# JSON values

A number is either an exact integer or a double; the two are never the same value.
The members of an object are listed in the order in which they are written.
A free object, one whose names are not fixed in advance, comes from a table and
so lists its members in ascending order of their names, each name once.
-/

namespace CardLimits

/-- A JSON number: an integer literal that fits 64 bits, or a double. -/
inductive Json.Number where
  | integer (value : Int)
  | double (value : Float)
deriving DecidableEq, Repr

/-- A JSON value. -/
inductive Json where
  | null
  | bool (flag : Bool)
  | number (value : Json.Number)
  | string (text : String)
  | array (items : List Json)
  | object (members : List (String × Json))
deriving Repr, Inhabited

namespace Json

/-- An integer as a JSON value. -/
def integer (value : Int) : Json :=
  .number (.integer value)

/-- An object whose names are not fixed in advance. -/
def ofTable (members : Table Json) : Json :=
  .object members.entries

/-- The member of an object, if the value is one and has it. -/
def get? (name : String) : Json → Option Json
  | .object members => members.lookup name
  | _ => none

end Json

end CardLimits
