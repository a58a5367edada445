import CardLimits.Model.Block
import CardLimits.Model.License
import CardLimits.Model.User
/-!
# Fixtures

A fixture holds everything that an offline run starts from: the contents of the
store and the users of the host.  `StoreSeed` is the store's part alone.

Both are written as one object; a fixture adds the member `users` to those of its
store.  The teams are kept in no order, so they may be written in any.  The two
readers differ in what they see first: the reader of a fixture reads the whole
object, and the users in it, before it looks at the store's members.
-/

namespace CardLimits

open Json

/-- What a store starts from. -/
structure StoreSeed where
  license : Option License := none
  /-- The card limit cutoff. -/
  cutoff : Int64 := 0
  blocks : List Block := []
  /-- Teams under the ids of their workspaces. -/
  teams : Table Team := .empty

/-- The JSON form of a store's start, with the teams written in some order. -/
def StoreSeed.recordArranged (arrange : List (String × Team) → List (String × Team)) :
    Record StoreSeed where
  name := "MemoryFixture"
  fields :=
    .field (.withDefault "license" (Codec.optional License.codec) none) <|
    .field (.withDefault "cardLimitTimestamp" .int64 0) <|
    .field (.withDefault "blocks" (Codec.list Block.codec) []) <|
    .field (.withDefault "teams" (Codec.tableArranged arrange Team.codec) .empty) .done
  ofValues := fun (license, cutoff, blocks, teams, ()) => { license, cutoff, blocks, teams }
  toValues := fun seed => (seed.license, seed.cutoff, seed.blocks, seed.teams, ())

/-- The JSON form of a store's start. -/
def StoreSeed.record : Record StoreSeed :=
  recordArranged id

/-- How a store's start is read and written. -/
def StoreSeed.codec : Codec StoreSeed :=
  record.codec

/-- What an offline run starts from. -/
structure Fixture where
  store : StoreSeed := {}
  users : List User := []

namespace Fixture

/-- The member with the users. -/
def usersField : String := "users"

/-- How the users of a fixture are read and written. -/
def usersCodec : Codec (List User) :=
  .list User.codec

/-- Takes in a member of a fixture: the users are kept, anything else is
set aside. -/
def acceptMember (source : Source) (users : Option (List User)) (member : Lexeme String × Tree) :
    Except ReadFault (Option (List User)) := do
  let name ← liftFault member.1.read
  if name = usersField then
    match users with
    | some _ => throw (.duplicateField name)
    | none => return some (← usersCodec.read source member.2)
  else
    Free.setAside source member.2
    return users

/-- Reads a fixture: the whole object first, then the members of the store. -/
def read (source : Source) (tree : Tree) : Except ReadFault Fixture :=
  match tree with
  | .object members ending => do
    let inside ← source.enter
    let users ← members.foldlM (acceptMember inside) none
    liftFault ending.check
    let values ← StoreSeed.record.fields.ofMembers .settled members ending
    return { store := StoreSeed.record.ofValues values, users := users.getD [] }
  | tree => tree.mismatch (.record "Fixture")

/-- How fixtures are read and written, with the teams in some order. -/
def codecArranged (arrange : List (String × Team) → List (String × Team)) : Codec Fixture where
  read := read
  write fixture :=
    let record := StoreSeed.recordArranged arrange
    .object (record.fields.members (record.toValues fixture.store) ++
      [(usersField, usersCodec.write fixture.users)])

/-- How fixtures are read and written. -/
def codec : Codec Fixture :=
  codecArranged id

end Fixture

end CardLimits
