import CardLimits.Text.IntLiteral
/-!
# The arguments of the command

A command has levels, from the program itself to the innermost subcommand.  Every
level has options, each with a value and at most once; the value follows an equals
sign or is the next argument, which then must not look like an option.  After `--`
nothing is an option or a subcommand any more.

The fixture may be named at every level; the innermost one counts.
-/

namespace CardLimits.CommandLine

/-- What the program is asked to do. -/
inductive Command where
  | isCloud
  | showLimits
  | setLimits (cards views : Option Int32)
  | apply (blocks workspace : String)
  | check (blocks workspace : String)
  | notifyAdmins (workspace : String)
deriving DecidableEq

/-- A command and the fixture that it runs over, if one is named. -/
structure Invocation where
  fixture : Option String
  command : Command
deriving DecidableEq

/-- The files that a command needs. -/
def Invocation.paths (invocation : Invocation) : List String :=
  invocation.fixture.toList ++
    match invocation.command with
    | .apply blocks _ => [blocks]
    | .check blocks _ => [blocks]
    | _ => []

/-- What one level accepts. -/
structure Level where
  options : List String := []
  subcommands : List String := []
  /-- The number of values that are not options'. -/
  values : Nat := 0

/-- What was found at one level. -/
structure Findings where
  options : List (String × String) := []
  values : List String := []
  /-- The subcommand and the arguments behind it. -/
  subcommand : Option (String × List String) := none

namespace Findings

/-- Adds an option with its value. -/
def addOption (findings : Findings) (name value : String) : Findings :=
  { findings with options := (name, value) :: findings.options }

/-- Adds a value that is no option's. -/
def addValue (findings : Findings) (value : String) : Findings :=
  { findings with values := findings.values ++ [value] }

/-- The value of an option. -/
def option? (findings : Findings) (name : String) : Option String :=
  findings.options.lookup name

end Findings

/-- Whether an argument looks like an option: a minus sign and something behind it. -/
def looksLikeOption (argument : String) : Bool :=
  match argument.toList with
  | '-' :: _ :: _ => true
  | _ => false

/-- The name of a long option and the value behind its first equals sign. -/
def longOption? (argument : String) : Option (String × Option String) :=
  match argument.toList with
  | '-' :: '-' :: text =>
    let name := String.ofList (text.takeWhile fun character => character ≠ '=')
    match text.dropWhile fun character => character ≠ '=' with
    | [] => some (name, none)
    | _ :: value => some (name, some (String.ofList value))
  | _ => none

/-- Whether an option may be given a value at a level. -/
def Level.takes (level : Level) (findings : Findings) (name : String) : Bool :=
  level.options.contains name && (findings.option? name).isNone

/-- Takes in the arguments at a level, up to a subcommand; none if some argument does
not fit. -/
def Level.scan (level : Level) (findings : Findings) : List String → Option Findings
  | [] => some findings
  | argument :: rest =>
    if argument = "--" then
      let findings := { findings with values := findings.values ++ rest }
      if findings.values.length ≤ level.values then some findings else none
    else
      match longOption? argument with
      | some (name, attached) =>
        if level.takes findings name then
          match attached, rest with
          | some value, rest => level.scan (findings.addOption name value) rest
          | none, value :: rest =>
            if looksLikeOption value then none
            else level.scan (findings.addOption name value) rest
          | none, [] => none
        else none
      | none =>
        if looksLikeOption argument then none
        else if level.subcommands.contains argument then
          some { findings with subcommand := some (argument, rest) }
        else if findings.values.length < level.values then
          level.scan (findings.addValue argument) rest
        else none

/-- The option that names the fixture. -/
def fixtureOption : String := "fixture"

/-- A level with the fixture among its options. -/
def levelWith (options subcommands : List String) (values : Nat) : Level :=
  { options := fixtureOption :: options, subcommands, values }

/-- The path in an option; a path is not empty. -/
def Findings.path? (findings : Findings) (name : String) : Option (Option String) :=
  match findings.option? name with
  | none => some none
  | some path => if path.isEmpty then none else some (some path)

/-- The number in an option. -/
def Findings.number? (findings : Findings) (name : String) : Option (Option Int32) :=
  match findings.option? name with
  | none => some none
  | some text => (Text.int32Literal? text).map some

/-- The command `limits show`. -/
def showCommand? (_ : Findings) : Option Command :=
  some .showLimits

/-- The command `limits set`: a view limit needs a card limit beside it. -/
def setCommand? (findings : Findings) : Option Command := do
  let cards ← findings.number? "cards"
  let views ← findings.number? "views"
  if views.isSome && cards.isNone then none
  else some (.setLimits cards views)

/-- A command over a file of blocks and a workspace, `0` if none is named. -/
def blocksCommand? (command : String → String → Command) (findings : Findings) :
    Option Command := do
  let blocks ← (← findings.path? "blocks")
  return command blocks ((findings.option? "workspace").getD "0")

/-- The command `notify-admins`. -/
def notifyCommand? (findings : Findings) : Option Command :=
  match findings.values with
  | [workspace] => some (.notifyAdmins workspace)
  | _ => none

/-- Takes in the arguments of an innermost level, given the fixture named so far. -/
def finish (outer : Option String) (level : Level) (command? : Findings → Option Command)
    (arguments : List String) : Option Invocation := do
  let findings ← level.scan {} arguments
  let inner ← findings.path? fixtureOption
  return { fixture := inner.or outer, command := ← command? findings }

/-- Takes in the arguments behind `limits`. -/
def parseLimits? (outer : Option String) (arguments : List String) : Option Invocation := do
  let findings ← (levelWith [] ["show", "set"] 0).scan {} arguments
  let inner ← findings.path? fixtureOption
  match ← findings.subcommand with
  | ("show", rest) => finish (inner.or outer) (levelWith [] [] 0) showCommand? rest
  | (_, rest) => finish (inner.or outer) (levelWith ["cards", "views"] [] 0) setCommand? rest

/-- The invocation that the arguments of the program stand for; none if they do not
fit. -/
def parse? (arguments : List String) : Option Invocation := do
  let findings ←
    (levelWith [] ["is-cloud", "limits", "apply", "check", "notify-admins"] 0).scan {} arguments
  let outer ← findings.path? fixtureOption
  match ← findings.subcommand with
  | ("is-cloud", rest) => finish outer (levelWith [] [] 0) (fun _ => some .isCloud) rest
  | ("limits", rest) => parseLimits? outer rest
  | ("apply", rest) =>
    finish outer (levelWith ["blocks", "workspace"] [] 0) (blocksCommand? .apply) rest
  | ("check", rest) =>
    finish outer (levelWith ["blocks", "workspace"] [] 0) (blocksCommand? .check) rest
  | (_, rest) => finish outer (levelWith [] [] 1) notifyCommand? rest

end CardLimits.CommandLine
