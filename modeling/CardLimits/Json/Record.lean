import CardLimits.Json.Codec
/-!
# Records

A record type is described once, by its fields in order, and read and written by
that description.  It is read from an object, whose members may come in any order,
or from an array of its fields in order; it is always written as an object.

From an object, every field is read at most once and unknown members are passed
over; which required field is missing is only known at the end.  From an array,
the fields at the end may be absent if they have a default, and a further item is
refused.
-/

namespace CardLimits.Json

/-- One field of a record. -/
structure Field (α : Type) where
  name : String
  read : Source → Tree → Except ReadFault α
  /-- The value of an absent field; a field without one is required. -/
  absent : Option α
  /-- The written value; none leaves the field out. -/
  write : α → Option Json

/-- A field that has to be there. -/
def Field.required {α : Type} (name : String) (codec : Codec α) : Field α :=
  ⟨name, codec.read, none, fun value => some (codec.write value)⟩

/-- A field with a value for when it is absent; it is always written. -/
def Field.withDefault {α : Type} (name : String) (codec : Codec α) (value : α) : Field α :=
  ⟨name, codec.read, some value, fun value => some (codec.write value)⟩

/-- A field that may be absent or `null`; it is left out instead of written as `null`. -/
def Field.leftOut {α : Type} (name : String) (codec : Codec α) : Field (Option α) :=
  ⟨name, codec.optional.read, some none, fun value => value.map codec.write⟩

/-- The fields of a record in order.  The first index is the type of what a reader
holds before all fields are known, the second the type of the values. -/
inductive Fields : Type → Type → Type 1 where
  | done : Fields Unit Unit
  | field {α slots values : Type} (first : Field α) (rest : Fields slots values) :
      Fields (Option α × slots) (α × values)

namespace Fields

variable {slots values : Type}

/-- No field is known yet. -/
def blank : {slots values : Type} → Fields slots values → slots
  | _, _, done => ()
  | _, _, field _ rest => (none, rest.blank)

/-- The number of fields. -/
def count : {slots values : Type} → Fields slots values → Nat
  | _, _, done => 0
  | _, _, field _ rest => rest.count + 1

/-- Takes in a member.  A field that is already known is a duplicate, whatever its
value; a name that is no field's is passed over. -/
def accept (source : Source) (name : String) (tree : Tree) : {slots values : Type} →
    Fields slots values → slots → Except ReadFault slots
  | _, _, done, () => liftFault tree.skip
  | _, _, field first rest, (slot, others) =>
    if first.name = name then
      match slot with
      | some _ => .error (.duplicateField name)
      | none => do
        let value ← first.read source tree
        return (some value, others)
    else do
      let others ← rest.accept source name tree others
      return (slot, others)

/-- The values when all members are known; reports the first required field that
is not. -/
def finish : {slots values : Type} → Fields slots values → slots → Except ReadFault values
  | _, _, done, () => .ok ()
  | _, _, field first rest, (slot, others) =>
    match slot.or first.absent with
    | none => .error (.missingField first.name)
    | some value => do
      let values ← rest.finish others
      return (value, values)

/-- Takes in all members of an object. -/
def acceptAll (fields : Fields slots values) (source : Source) (known : slots)
    (members : List (Lexeme String × Tree)) : Except ReadFault slots :=
  members.foldlM (fun known (name, tree) => do
    let name ← liftFault name.read
    fields.accept source name tree known) known

/-- Reads the values from the members of an object. -/
def ofMembers (fields : Fields slots values) (source : Source)
    (members : List (Lexeme String × Tree)) (ending : Ending) : Except ReadFault values := do
  let known ← fields.acceptAll source fields.blank members
  liftFault ending.check
  fields.finish known

/-- Reads the values from the items of an array.  `wrongLength` is the failure when
a required field is absent, by its position; `further` the failure when items are
left over, by their number. -/
def ofItems (source : Source) (wrongLength further : Nat → ReadFault) :
    {slots values : Type} → Fields slots values → (position : Nat) → List Tree → Ending →
      Except ReadFault values
  | _, _, done, _, [], ending => liftFault ending.checkLast
  | _, _, done, _, item :: rest, _ => .error (further (item :: rest).length)
  | _, _, field first rest, position, item :: items, ending => do
    let value ← first.read source item
    let values ← rest.ofItems source wrongLength further (position + 1) items ending
    return (value, values)
  | _, _, field first rest, position, [], ending => do
    liftFault ending.check
    match first.absent with
    | none => throw (wrongLength position)
    | some value =>
      let values ← rest.ofItems source wrongLength further (position + 1) [] ending
      return (value, values)

/-- The members of the written object. -/
def members : {slots values : Type} → Fields slots values → values → List (String × Json)
  | _, _, done, () => []
  | _, _, field first rest, (value, values) =>
    match first.write value with
    | some written => (first.name, written) :: rest.members values
    | none => rest.members values

end Fields

/-- A record type: its name, its fields, and how its values are made of theirs. -/
structure Record (α : Type) : Type 1 where
  name : String
  {slots : Type}
  {values : Type}
  fields : Fields slots values
  ofValues : values → α
  toValues : α → values

namespace Record

variable {α : Type}

/-- The failure when an array has items left over. -/
def tooMany (record : Record α) (source : Source) (further : Nat) : ReadFault :=
  match source with
  | .text _ => .text .trailingText
  | .settled => .wrongLength (record.fields.count + further) (.items record.fields.count)

/-- The failure when an array ends before a required field. -/
def tooFew (record : Record α) (position : Nat) : ReadFault :=
  .wrongLength position (.recordOf record.name record.fields.count)

/-- Reads a value from an object or an array. -/
def read (record : Record α) (source : Source) (tree : Tree) : Except ReadFault α :=
  match tree with
  | .object members ending => do
    let inside ← source.enter
    let values ← record.fields.ofMembers inside members ending
    return record.ofValues values
  | .array items ending => do
    let inside ← source.enter
    let values ← record.fields.ofItems inside record.tooFew (record.tooMany source) 0 items ending
    return record.ofValues values
  | tree => tree.mismatch (.record record.name)

/-- The codec of a record type. -/
def codec (record : Record α) : Codec α where
  read := record.read
  write value := .object (record.fields.members (record.toValues value))

end Record

end CardLimits.Json
