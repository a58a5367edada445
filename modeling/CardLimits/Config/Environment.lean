import CardLimits.Config.Settings
/-!
# The environment of a run

A run finds its variables in the environment of the process and in a file of
settings.  The process comes first, and in the file the first line with a name.
Besides, there is a clock, which counts the seconds since the machine was started.
-/

namespace CardLimits

/-- The environment of a run: the variables of its process, those of its file of
settings, and what its clock shows. -/
structure Environment where
  process : Variables := []
  settings : Variables := []
  clock : Nat := 0
deriving DecidableEq, Repr

namespace Environment

/-- The environment of a process beside a file of settings. -/
def ofSettings (process : Variables) (text : String) : Environment :=
  { process, settings := Settings.ofText process text }

/-- The value of a variable.  The process comes before the file. -/
def get? (environment : Environment) (name : String) : Option String :=
  (environment.process ++ environment.settings).lookup name

/-- The value of a variable, unless it is empty. -/
def nonempty? (environment : Environment) (name : String) : Option String :=
  (environment.get? name).filter fun value => !value.isEmpty

end Environment

end CardLimits
