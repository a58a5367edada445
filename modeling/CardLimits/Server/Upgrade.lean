import CardLimits.Server.Basic
/-!
# Asking the administrators for an upgrade

The active system administrators are asked for page by page, and every page gets
one message, until a page is empty.
-/

namespace CardLimits

/-- The type of post of a request for an upgrade. -/
def upgradePostType : String := "custom_cloud_upgrade_nudge"

/-- The text of a request for an upgrade, on behalf of a team if there is one. -/
def upgradeText (team : Option Team) : String :=
  "A member of " ++ (team.map Team.displayName).getD "your organization" ++
    " has notified you to upgrade this workspace before the trial ends."

/-- The request for an upgrade to some users. -/
def upgradeMessage (team : Option Team) (recipients : List User) : Message :=
  { message := upgradeText team
    postType := upgradePostType
    recipients := recipients.map User.id }

namespace Server

variable {σ : Type} [Store σ]

/-- Writes to the users on every page from a query on, up to the first empty page.
`pages` bounds the number of pages. -/
def notifyFrom (team : Option Team) : (pages : Nat) → UserQuery → Action (Server σ) Unit
  | 0, _ => return ()
  | pages + 1, query => do
    let admins ← onDirectory (Directory.ask query)
    if admins.isEmpty then return ()
    onStore (Store.send (upgradeMessage team admins))
    notifyFrom team pages { query with page := query.page + 1 }

/-- Asks every active system administrator to upgrade a workspace.  Every page but
the last one has at least one user, so there is at most one page more than users. -/
def requestUpgrade (workspaceId : String) : Action (Server σ) Unit := do
  let server ← get
  match server.directory with
  | none => throw .noHostApi
  | some directory =>
    let team ← onStore (Store.team workspaceId)
    notifyFrom team (directory.users.length + 1) (.systemAdmins server.pageSize)

end Server

end CardLimits
