import CardLimits.Json.Free
import CardLimits.Json.Record
/-!
# Blocks

Everything on a board is a block: the board itself, its cards and views, and the
content of a card.  A block names its parent and its root, the board it belongs
to.  `Block.limitedView` is what remains visible of a card that is outside the
active window of its server.
-/

namespace CardLimits

open Json

/-- What a block is.  `unknown` stands for every kind that is not listed. -/
inductive BlockKind where
  | board
  | card
  | view
  | text
  | image
  | checkbox
  | divider
  | comment
  | unknown
deriving DecidableEq, Repr

namespace BlockKind

/-- The name of a kind. -/
def name : BlockKind → String
  | board => "board"
  | card => "card"
  | view => "view"
  | text => "text"
  | image => "image"
  | checkbox => "checkbox"
  | divider => "divider"
  | comment => "comment"
  | unknown => "unknown"

/-- The kind with a name, in this spelling only. -/
def ofName (name : String) : BlockKind :=
  match name with
  | "board" => board
  | "card" => card
  | "view" => view
  | "text" => text
  | "image" => image
  | "checkbox" => checkbox
  | "divider" => divider
  | "comment" => comment
  | _ => unknown

@[simp]
theorem ofName_name (kind : BlockKind) : ofName kind.name = kind := by
  cases kind <;> rfl

/-- The value `null`, under the name of a kind.  In a value read before, an empty
object does as well. -/
def readUnit (source : Source) (tree : Tree) : Except ReadFault Unit :=
  match source, tree with
  | _, .bare (.value .null) => .ok ()
  | .settled, .object [] _ => .ok ()
  | _, tree => tree.mismatch .unit

/-- The fault of an object of a text that has no name where the name of a kind is
due: an empty object lacks a value, and anything else is what it is in any object. -/
def missingNameFault : Ending → Fault
  | .closed => .noValue
  | .unclosed gap => gap.further

/-- The fault of an object of a text that breaks off behind the name of a kind and its
value: it is only told whether the text ends there. -/
def openEntryFault (gap : Gap) : Fault :=
  if gap.closing.isEarlyEnd then gap.closing else .noValue

/-- Reads a kind from an object with one member, its name. -/
def readEntry (source : Source) (members : List (Lexeme String × Tree)) (ending : Ending) :
    Except ReadFault BlockKind := do
  let inside ← source.enter
  match source, members with
  | .text _, [] => throw (.text (missingNameFault ending))
  | .text _, (name, value) :: rest =>
    let name ← liftFault name.read
    readUnit inside value
    match rest, ending with
    | [], .closed => return ofName name
    | [], .unclosed gap => throw (.text (openEntryFault gap))
    | _, _ => throw (.text .noValue)
  | .settled, [(name, value)] =>
    let name ← liftFault name.read
    readUnit inside value
    return ofName name
  | .settled, _ => throw (.unsuitable .map .singleEntry)

/-- A kind is read from its name, or from an object with the name as its only
member and the value `null`.  It is written as its name. -/
def codec : Codec BlockKind where
  read source tree :=
    match tree with
    | .quoted written => liftFault (written.read.map ofName)
    | .object members ending => readEntry source members ending
    | .missing fault => .error (.text fault)
    | tree =>
      match source with
      | .text _ => .error (.text .noValue)
      | .settled => tree.mismatch .stringOrMap
  write kind := .string kind.name

end BlockKind

/-- A block.  Times are in milliseconds; a block that is not deleted has `deleteAt`
zero. -/
structure Block where
  id : String
  parentId : String := ""
  /-- The board that the block belongs to; a board is its own root. -/
  rootId : String := ""
  createdBy : String := ""
  modifiedBy : String := ""
  schema : Int64 := 0
  kind : BlockKind
  title : String := ""
  fields : Option (Table Json) := none
  createAt : Int64 := 0
  updateAt : Int64 := 0
  deleteAt : Int64 := 0
  workspaceId : String := ""
  /-- Whether the content was withheld. -/
  limited : Bool := false

namespace Block

/-- The name of the field that marks a template board. -/
def templateField : String := "isTemplate"

/-- The name of the field with the icon of a block. -/
def iconField : String := "icon"

/-- A fresh block of the current schema. -/
def fresh (id : String) (kind : BlockKind) (parentId rootId : String) : Block :=
  { id, kind, parentId, rootId, schema := 1 }

/-- The block with another update time. -/
def withUpdateAt (block : Block) (updateAt : Int64) : Block :=
  { block with updateAt }

/-- The block with a free field, which replaces one of the same name. -/
def withField (block : Block) (name : String) (value : Json) : Block :=
  { block with fields := some ((block.fields.getD .empty).insert name value) }

/-- A free field of the block. -/
def field? (block : Block) (name : String) : Option Json :=
  block.fields.bind fun fields => fields.get? name

/-- Whether the block is a board. -/
def isBoard (block : Block) : Bool :=
  block.kind = .board

/-- Whether the block is a card. -/
def isCard (block : Block) : Bool :=
  block.kind = .card

/-- Whether the template field is `true`; any other value does not count. -/
def isTemplate (block : Block) : Bool :=
  match block.field? templateField with
  | some (.bool flag) => flag
  | _ => false

/-- Whether the block is a card last updated at or before a cutoff.  A cutoff that
is not positive is none. -/
def isOutside (block : Block) (cutoff : Int64) : Bool :=
  block.isCard && 0 < cutoff && block.updateAt ≤ cutoff

/-- The icon, if it is a text that is not empty. -/
def icon? (block : Block) : Option String :=
  match block.field? iconField with
  | some (.string icon) => if icon.isEmpty then none else some icon
  | _ => none

/-- What remains visible of a block when it is limited: of its free fields only the
icon. -/
def limitedView (block : Block) : Block :=
  { block with
    fields := block.icon?.map fun icon => Table.ofList [(iconField, .string icon)]
    limited := true }

/-- The JSON form of a block. -/
def record : Record Block where
  name := "Block"
  fields :=
    .field (.required "id" .string) <|
    .field (.withDefault "parentId" .string "") <|
    .field (.withDefault "rootId" .string "") <|
    .field (.withDefault "createdBy" .string "") <|
    .field (.withDefault "modifiedBy" .string "") <|
    .field (.withDefault "schema" .int64 0) <|
    .field (.required "type" BlockKind.codec) <|
    .field (.withDefault "title" .string "") <|
    .field (.leftOut "fields" (Codec.table Codec.free)) <|
    .field (.withDefault "createAt" .int64 0) <|
    .field (.withDefault "updateAt" .int64 0) <|
    .field (.withDefault "deleteAt" .int64 0) <|
    .field (.withDefault "workspaceId" .string "") <|
    .field (.withDefault "limited" .boolean false) .done
  ofValues := fun
    (id, parentId, rootId, createdBy, modifiedBy, schema, kind, title, fields, createAt,
      updateAt, deleteAt, workspaceId, limited, ()) =>
    { id, parentId, rootId, createdBy, modifiedBy, schema, kind, title, fields, createAt,
      updateAt, deleteAt, workspaceId, limited }
  toValues := fun block =>
    (block.id, block.parentId, block.rootId, block.createdBy, block.modifiedBy, block.schema,
      block.kind, block.title, block.fields, block.createAt, block.updateAt, block.deleteAt,
      block.workspaceId, block.limited, ())

/-- How blocks are read and written. -/
def codec : Codec Block :=
  record.codec

end Block

/-- A row of the table of blocks.  The kind is any text, and nothing in it says
whether the block is limited. -/
structure BlockRow where
  id : String
  workspaceId : String
  parentId : String
  rootId : String
  createdBy : String
  modifiedBy : String
  schema : Int64
  kind : String
  title : String
  fields : Option (Table Json)
  createAt : Int64
  updateAt : Int64
  deleteAt : Int64

/-- The block that a row holds. -/
def BlockRow.toBlock (row : BlockRow) : Block where
  id := row.id
  parentId := row.parentId
  rootId := row.rootId
  createdBy := row.createdBy
  modifiedBy := row.modifiedBy
  schema := row.schema
  kind := .ofName row.kind
  title := row.title
  fields := row.fields
  createAt := row.createAt
  updateAt := row.updateAt
  deleteAt := row.deleteAt
  workspaceId := row.workspaceId
  limited := false

/-- What a set of blocks belongs to: a workspace. -/
structure Container where
  workspaceId : String
deriving DecidableEq, Repr

namespace Container

/-- The JSON form of a container. -/
def record : Record Container where
  name := "Container"
  fields := .field (.required "workspaceId" .string) .done
  ofValues := fun (workspaceId, ()) => { workspaceId }
  toValues := fun container => (container.workspaceId, ())

end Container

end CardLimits
