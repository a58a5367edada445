import CardLimits.Json.Record
import CardLimits.Text.Blank
/-!
# Users of the host and their teams

The roles of a user are one text, a list of words; a user has a role if it is one
of the words, not merely a part of one.  `UserQuery` asks the host for one page of
users.
-/

namespace CardLimits

open Json

/-- A user account of the host. -/
structure User where
  id : String
  username : String
  email : String := ""
  /-- The roles, separated by blanks. -/
  roles : String := ""
  /-- Zero for an account that is not deleted. -/
  deleteAt : Int64 := 0
deriving DecidableEq

namespace User

/-- Whether a role is one of the words of the user's roles. -/
def hasRole (user : User) (role : String) : Bool :=
  (Text.words user.roles.toList).contains role.toList

/-- Whether the account is not deleted. -/
def isActive (user : User) : Bool :=
  user.deleteAt = 0

/-- The JSON form of a user. -/
def record : Record User where
  name := "User"
  fields :=
    .field (.required "id" .string) <|
    .field (.required "username" .string) <|
    .field (.withDefault "email" .string "") <|
    .field (.withDefault "roles" .string "") <|
    .field (.withDefault "deleteAt" .int64 0) .done
  ofValues := fun (id, username, email, roles, deleteAt, ()) =>
    { id, username, email, roles, deleteAt }
  toValues := fun user => (user.id, user.username, user.email, user.roles, user.deleteAt, ())

/-- How users are read and written. -/
def codec : Codec User :=
  record.codec

end User

/-- The team that a workspace belongs to. -/
structure Team where
  id : String
  displayName : String
deriving DecidableEq, Repr

namespace Team

/-- The JSON form of a team. -/
def record : Record Team where
  name := "Team"
  fields :=
    .field (.required "id" .string) <|
    .field (.required "displayName" .string) .done
  ofValues := fun (id, displayName, ()) => { id, displayName }
  toValues := fun team => (team.id, team.displayName, ())

/-- How teams are read and written. -/
def codec : Codec Team :=
  record.codec

end Team

/-- A request for one page of users. -/
structure UserQuery where
  /-- Whether deleted accounts are left out. -/
  active : Bool
  /-- The role that is asked for; the empty one is everybody's. -/
  role : String
  perPage : UInt64
  /-- The number of the page, from zero. -/
  page : UInt64
deriving DecidableEq

namespace UserQuery

/-- The role of system administrators. -/
def systemAdminRole : String := "system_admin"

/-- The number of administrators on a page unless it is set. -/
def standardPageSize : UInt64 := 50

/-- The first page of the system administrators that are not deleted. -/
def systemAdmins (perPage : UInt64) : UserQuery :=
  { active := true, role := systemAdminRole, perPage, page := 0 }

/-- The first page of administrators, of standard size. -/
def standard : UserQuery :=
  systemAdmins standardPageSize

/-- Whether a query asks for a user, page aside. -/
def selects (query : UserQuery) (user : User) : Bool :=
  (!query.active || user.isActive) && (query.role.isEmpty || user.hasRole query.role)

/-- The JSON form of a query. -/
def record : Record UserQuery where
  name := "UserGetOptions"
  fields :=
    .field (.required "active" .boolean) <|
    .field (.required "role" .string) <|
    .field (.required "perPage" .size) <|
    .field (.required "page" .size) .done
  ofValues := fun (active, role, perPage, page, ()) => { active, role, perPage, page }
  toValues := fun query => (query.active, query.role, query.perPage, query.page, ())

/-- How queries are read and written. -/
def codec : Codec UserQuery :=
  record.codec

end UserQuery

end CardLimits
