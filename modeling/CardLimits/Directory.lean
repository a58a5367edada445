import CardLimits.Failure
import CardLimits.Model.User
/-!
# The users of the host

The host answers a query with one page of the users that the query selects, in a
fixed order.  An empty page is the end of the list.  Every query is recorded.
-/

namespace CardLimits

/-- The user accounts of the host. -/
structure Directory where
  users : List User := []
  /-- The queries that were asked, the oldest first. -/
  requests : List UserQuery := []
deriving DecidableEq

namespace Directory

/-- One page of a list; pages are numbered from zero. -/
def pageOf {α : Type} (perPage page : Nat) (items : List α) : List α :=
  (items.drop (page * perPage)).take perPage

/-- The users on the page that a query asks for. -/
def answer (directory : Directory) (query : UserQuery) : List User :=
  pageOf query.perPage.toNat query.page.toNat (directory.users.filter query.selects)

/-- Asks for a page of users; pages without room for a user are refused. -/
def ask (query : UserQuery) : Action Directory (List User) := do
  modify fun directory => { directory with requests := directory.requests ++ [query] }
  if query.perPage = 0 then throw (.hostApi "per_page must be positive")
  return (← get).answer query

end Directory

end CardLimits
