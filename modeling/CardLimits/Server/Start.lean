import CardLimits.Config.Basic
import CardLimits.Config.Endpoint
import CardLimits.Server.Basic
import CardLimits.Store.Memory
/-!
# Starting a server

A server starts from a fixture, which stands for its store and its host.  There is
no way to a database from here, so starting over one fails.
-/

namespace CardLimits

/-- A server over a fixture.  A configured card limit applies from the start, with
the cutoff that the fixture has. -/
def Server.ofFixture (fixture : Fixture) (config : Config) : Server MemoryStore where
  store := .ofSeed fixture.store
  directory := some { users := fixture.users }
  cardLimit := config.cardLimit.getD 0
  pageSize := config.adminPageSize

/-- The last second that a clock can show. -/
def lastSecond : Nat := Int64.maxValue.toInt.toNat

/-- Whether connections can be set up: there has to be room for at least one, and the
time for it has to end while the clock still runs. -/
def Config.allowsConnections (config : Config) (environment : Environment) : Bool :=
  config.dbMaxConnections ≠ 0 &&
    environment.clock + config.dbTimeoutSeconds.toNat ≤ lastSecond

/-- How starting over the database of a configuration ends: there is no address, it is a
wrong one, connections cannot be set up, there is no time for one, or nobody answers. -/
def Config.connect (files : Files) (environment : Environment) (config : Config) : Stop :=
  match config.databaseUrl with
  | none => .failed { message := "DATABASE_URL must be set to use the Postgres store" }
  | some text =>
    match DatabaseUrl.read text with
    | .error fault => .failed fault.toDatabaseFault.toFailure
    | .ok url =>
      if !config.allowsConnections environment then .crashed
      else if config.dbTimeoutSeconds = 0 then .failed DatabaseFault.poolTimedOut.toFailure
      else .failed ((Endpoint.ofUrl environment url).silence files).toFailure

/-- The path that is looked at when a server starts over the database. -/
def Config.socketPath? (environment : Environment) (config : Config) : Option String := do
  let url ← (DatabaseUrl.read (← config.databaseUrl)).toOption
  (Endpoint.ofUrl environment url).path?

end CardLimits
