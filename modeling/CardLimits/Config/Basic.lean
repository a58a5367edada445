import CardLimits.Config.Environment
import CardLimits.Failure
import CardLimits.Model.User
import CardLimits.Text.IntLiteral
/-!
# Configuration

All settings come from the environment.  A card limit has to be a number, and the
settings together have to be valid; numbers for the database and for the page size
that cannot be read fall back to their defaults.
-/

namespace CardLimits

/-- The settings of a run. -/
structure Config where
  environment : String := "development"
  /-- Where the database is; without it there is none. -/
  databaseUrl : Option String := none
  dbMaxConnections : UInt32 := 5
  dbTimeoutSeconds : UInt64 := 30
  /-- The file with the license of a server over a database. -/
  licensePath : Option String := none
  /-- A card limit from the start. -/
  cardLimit : Option Int32 := none
  adminPageSize : UInt64 := UserQuery.standardPageSize
deriving DecidableEq

/-- What can be wrong with the settings. -/
inductive ConfigFault where
  | cardLimitNotNumber (text : String)
  | databaseUrlScheme
  | adminPageSizeZero
  | cardLimitNegative
deriving DecidableEq, Repr

/-- The wording of a fault. -/
def ConfigFault.message : ConfigFault → String
  | cardLimitNotNumber text => "BOARDS_CARD_LIMIT must be a valid number, got '" ++ text ++ "'"
  | databaseUrlScheme => "DATABASE_URL must be a valid PostgreSQL connection string"
  | adminPageSizeZero => "BOARDS_ADMIN_PAGE_SIZE must be greater than zero"
  | cardLimitNegative => "BOARDS_CARD_LIMIT cannot be negative"

namespace Config

/-- The beginnings of the address of a database. -/
def databaseSchemes : List String :=
  ["postgres://", "postgresql://"]

/-- Whether an address is one of a database. -/
def isDatabaseUrl (url : String) : Bool :=
  databaseSchemes.any fun scheme => scheme.toList.isPrefixOf url.toList

/-- Whether the run is in production, in either case of letters. -/
def isProduction (config : Config) : Bool :=
  let environment := config.environment.toList.map Char.toLower
  environment = "production".toList || environment = "prod".toList

/-- The first thing that is wrong with the settings. -/
def fault? (config : Config) : Option ConfigFault :=
  if config.databaseUrl.any (fun url => !isDatabaseUrl url) then some .databaseUrlScheme
  else if config.adminPageSize = 0 then some .adminPageSizeZero
  else if config.cardLimit.any (fun limit => limit < 0) then some .cardLimitNegative
  else none

/-- The settings themselves, if nothing is wrong with them. -/
def validate (config : Config) : Except ConfigFault Config :=
  match config.fault? with
  | some fault => .error fault
  | none => .ok config

/-- The card limit of an environment.  Blanks around the number do not count. -/
def cardLimitOf (environment : Environment) : Except ConfigFault (Option Int32) :=
  match environment.nonempty? "BOARDS_CARD_LIMIT" with
  | none => .ok none
  | some text =>
    match Text.int32Literal? (String.ofList (Text.trim text.toList)) with
    | some limit => .ok (some limit)
    | none => .error (.cardLimitNotNumber text)

/-- The settings of an environment with a card limit, before they are looked at for faults. -/
def draft (environment : Environment) (cardLimit : Option Int32) : Config :=
  let standard : Config := {}
  { environment := ((environment.get? "ENVIRONMENT").or
      (environment.get? "APP_ENV")).getD standard.environment
    databaseUrl := environment.nonempty? "DATABASE_URL"
    dbMaxConnections := ((environment.get? "DB_MAX_CONNECTIONS").bind
      Text.uint32Literal?).getD standard.dbMaxConnections
    dbTimeoutSeconds := ((environment.get? "DB_TIMEOUT_SECONDS").bind
      Text.uint64Literal?).getD standard.dbTimeoutSeconds
    licensePath := environment.nonempty? "BOARDS_LICENSE_PATH"
    cardLimit
    adminPageSize := ((environment.get? "BOARDS_ADMIN_PAGE_SIZE").bind
      Text.uint64Literal?).getD standard.adminPageSize }

/-- The settings of an environment. -/
def ofEnvironment (environment : Environment) : Except ConfigFault Config := do
  let cardLimit ← cardLimitOf environment
  (draft environment cardLimit).validate

end Config

/-- The fault as a failure. -/
def ConfigFault.toFailure (fault : ConfigFault) : Failure :=
  { message := fault.message }

end CardLimits
