import CardLimits.Store.Basic
/-!
# A database that was closed

The license belongs to the host and is still known; every statement that would
have to be sent to the database fails.  Asking for no blocks needs no statement.
-/

namespace CardLimits

/-- A store whose database answers no statement. -/
structure ClosedDatabase where
  license : Option License := none
deriving DecidableEq, Repr

namespace ClosedDatabase

/-- The name of the setting under which a database keeps the cutoff. -/
def cutoffSetting : String := "CardLimitTimestamp"

/-- Any statement. -/
def statement {α : Type} : Action ClosedDatabase α :=
  throw (.database .poolClosed)

instance : Store ClosedDatabase where
  license := return (← get).license
  cutoff := statement
  updateCutoff _ := statement
  usedCards := statement
  blocksByIds _ ids := if ids.isEmpty then return [] else statement
  team _ := statement
  send _ := statement

end ClosedDatabase

end CardLimits
