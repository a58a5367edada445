import CardLimits.CommandLine.Arguments
import CardLimits.Loading
import CardLimits.Server.Serving
import CardLimits.Server.Start
import CardLimits.Server.Upgrade
/-!
# Running the command

A run depends on its arguments, its environment and the files it names, and on
nothing else.  It prints one JSON value, or it fails before it has printed
anything.
-/

namespace CardLimits.CommandLine

/-- How a run ends. -/
inductive Outcome where
  | printed (text : String)
  | failed (failure : Failure)
  | crashed
  /-- The arguments do not fit. -/
  | misused
deriving DecidableEq, Repr

/-- The exit code. -/
def Outcome.exitCode : Outcome → Nat
  | printed _ => 0
  | failed _ => 1
  | misused => 2
  | crashed => 101

/-- What is written to the standard output. -/
def Outcome.output : Outcome → String
  | printed text => text
  | _ => ""

/-- The limits that `limits set` pushes; none without any flag. -/
def pushedLimits (cards views : Option Int32) : Option ProductLimits :=
  if cards.isSome || views.isSome then some { boards := some { cards, views } } else none

/-- Turns an error of the server into a failure. -/
def reported {σ α : Type} : EStateM.Result AppError σ α → Except Failure (α × σ)
  | .ok value state => .ok (value, state)
  | .error error _ => .error error.toFailure

/-- Turns a failure to load into a failure. -/
def loaded {α : Type} (result : Except LoadFailure α) : Except Failure α :=
  result.mapError LoadFailure.toFailure

/-- What a command prints over a server.  A file of blocks is loaded first. -/
def Command.perform (files : Files) (server : Server MemoryStore) :
    Command → Except Failure Json
  | isCloud => do
    let (cloud, server) ← reported (Server.isCloud.run server)
    let (limited, _) ← reported (Server.isLimited.run server)
    return .object [("cloudLimited", .bool limited), ("isCloud", .bool cloud)]
  | showLimits => do
    let (usage, _) ← reported (Server.usage.run server)
    return Usage.codec.write usage
  | setLimits cards views => do
    let ((), server) ← reported ((Server.setLimits (pushedLimits cards views)).run server)
    let (usage, _) ← reported (Server.usage.run server)
    return Usage.codec.write usage
  | apply path workspaceId => do
    let blocks ← loaded (loadBlocks files path)
    let (served, _) ← reported ((Server.applyLimits ⟨workspaceId⟩ blocks).run server)
    return blocksCodec.write served
  | check path workspaceId => do
    let blocks ← loaded (loadBlocks files path)
    let (holds, _) ← reported ((Server.holdsLimited ⟨workspaceId⟩ blocks).run server)
    return .object [("containsLimitedBlocks", .bool holds)]
  | notifyAdmins workspaceId =>
    match reported ((Server.requestUpgrade workspaceId).run server) with
    | .error failure => .error (failure.context "Failed to notify system administrators")
    | .ok ((), server) =>
      .ok (.object
        [("message", .string ("Upgrade request sent for workspace " ++ workspaceId)),
          ("sentMessages", .array (server.store.sent.map Message.json)),
          ("success", .bool true)])

/-- What an invocation prints. -/
def Invocation.perform (files : Files) (environment : Environment) (invocation : Invocation) :
    Except Stop Json :=
  match Config.ofEnvironment environment with
  | .error fault => .error (.failed (fault.toFailure.context "Failed to load configuration"))
  | .ok config =>
    match invocation.fixture with
    | none =>
      .error ((config.connect files environment).context "Set DATABASE_URL or pass --fixture")
    | some path => Except.mapError Stop.failed do
      let fixture ← loaded (loadFixture files path)
      invocation.command.perform files (.ofFixture fixture config)

/-- The paths that an invocation looks at. -/
def Invocation.pathsIn (environment : Environment) (invocation : Invocation) : List String :=
  match invocation.fixture, Config.ofEnvironment environment with
  | none, .ok config => (config.socketPath? environment).toList
  | _, _ => invocation.paths

/-- Runs the command with its arguments. -/
def run (files : Files) (environment : Environment) (arguments : List String) : Outcome :=
  match parse? arguments with
  | none => .misused
  | some invocation =>
    match invocation.perform files environment with
    | .error (.failed failure) => .failed failure
    | .error .crashed => .crashed
    | .ok value => .printed (value.toSpreadString ++ "\n")

end CardLimits.CommandLine
