import CardLimits.Config.DatabaseUrl
import CardLimits.Config.Environment
import CardLimits.Files.Basic
import CardLimits.Text.HostName
/-!
# Where a database listens

The server of a database listens at a socket of its own machine or at a host in the
network.  The address of the database says where; what it leaves open is found in the
environment.  The parameters of an address count more than what stands in front of
them, and of two parameters the later one does.  A socket counts more than a host,
wherever the two stand.

There is no server to be reached from here.  `Endpoint.silence` says how that shows.
-/

namespace CardLimits

open Text

/-- Where the server of a database listens. -/
inductive Endpoint where
  | socket (path : String)
  | host (name : String)
deriving DecidableEq, Repr

namespace DatabaseUrl

/-- The last parameter that a reader accepts, as it reads it. -/
def lastParameter? {α : Type} (url : DatabaseUrl) (read : String → List Char → Option α) :
    Option α :=
  ((parameters url.query).filterMap fun (name, value) => read (String.ofList name) value).getLast?

/-- The number of the last parameter that gives one. -/
def numberParameter? (url : DatabaseUrl) : Option Nat :=
  url.lastParameter? fun name value =>
    if name = "port" then (natLiteral UInt16.size value).toOption else none

/-- Whether a text in plain writing is a path, and not the name of a host. -/
def startsPath (text : List Char) : Bool :=
  text.head? = some '/'

/-- The directory of a socket that the address gives. -/
def directory? (url : DatabaseUrl) : Option (List Char) :=
  (url.lastParameter? fun name value =>
      if name = "host" && startsPath value then some value else none).or
    (if isPath url.host then (decoded url.host).toOption else none)

/-- The host in the network that the address gives. -/
def name? (url : DatabaseUrl) : Option (List Char) :=
  (url.lastParameter? fun name value =>
      if name = "hostaddr" || name = "host" && !startsPath value then some value else none).or
    (if url.host.isEmpty || isPath url.host then none else some url.host)

end DatabaseUrl

namespace Environment

/-- The number under which a server listens unless the address says otherwise. -/
def databaseNumber (environment : Environment) : Nat :=
  ((environment.get? "PGPORT").bind fun text =>
    (natLiteral UInt16.size text.toList).toOption).getD 5432

/-- The host of the server unless the address says otherwise. -/
def databaseHost (environment : Environment) : String :=
  ((environment.get? "PGHOSTADDR").or (environment.get? "PGHOST")).getD "localhost"

end Environment

namespace Endpoint

/-- The socket of the server that listens under a number, in a directory. -/
def ofDirectory (directory : String) (number : Nat) : Endpoint :=
  .socket (directory ++ "/.s.PGSQL." ++ toString number)

/-- Where the server of an address listens. -/
def ofUrl (environment : Environment) (url : DatabaseUrl) : Endpoint :=
  let number := (url.numberParameter?.or url.number).getD environment.databaseNumber
  match url.directory? with
  | some directory => ofDirectory (String.ofList directory) number
  | none =>
    let name := (url.name?.map String.ofList).getD environment.databaseHost
    if DatabaseUrl.startsPath name.toList then ofDirectory name number else .host name

/-- The number of bytes at which the path of a socket is too long. -/
def socketPathLimit : Nat := 108

/-- How it shows that nobody answers at a socket.  What cannot be its path is refused at
once, and so is a path at which there is nothing; otherwise one waits in vain. -/
def socketSilence (files : Files) (path : String) : DatabaseFault :=
  if path.toList.contains '\x00' then .inputOutput "paths must not contain interior null bytes"
  else if socketPathLimit ≤ path.utf8ByteSize then
    .inputOutput "path must be shorter than SUN_LEN"
  else
    match files path with
    | .ok _ | .error .isDirectory | .error .notText => .poolTimedOut
    | .error fault => .inputOutput fault.message

/-- Whether a host can be found without asking anyone: by its address, or because it is
the machine itself. -/
def isKnownHost (name : List Char) : Bool :=
  isIPv4 name || isIPv6 name || name.map Char.toLower = "localhost".toList

/-- How it shows that nobody answers at a host.  At one that can be found one waits in
vain; any other would have to be looked up, for which its name has to be one. -/
def hostSilence (name : List Char) : DatabaseFault :=
  if isKnownHost name then .poolTimedOut
  else if name.contains '\x00' then .inputOutput FileFault.nulInPath.message
  else if isHostName name then
    .inputOutput "failed to lookup address information: Temporary failure in name resolution"
  else .inputOutput "failed to lookup address information: Name or service not known"

/-- The name of a host without the brackets that an address of version 6 has around it. -/
def plainName (name : List Char) : List Char :=
  let isBracket := fun character => character = '[' || character = ']'
  ((name.dropWhile isBracket).reverse.dropWhile isBracket).reverse

/-- How it shows that nobody answers. -/
def silence (files : Files) : Endpoint → DatabaseFault
  | socket path => socketSilence files path
  | host name => hostSilence (plainName name.toList)

/-- The path that has to be looked at. -/
def path? : Endpoint → Option String
  | socket path => some path
  | host _ => none

end Endpoint

end CardLimits
