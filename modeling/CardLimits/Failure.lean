import CardLimits.Json.ReadFault
/-!
# Failures

`AppError` lists the ways in which the store, the host and the input can fail.
What is known about one is its kind, whether a caller may try again, how it should
be logged, its message and the messages of its causes.  `Failure` is a message
with its causes and nothing else, as a command reports it.  `Stop` is what ends a
command early, which may also be a crash without any report.
-/

namespace CardLimits

open Json

/-- A message and the messages of its causes, the outermost first. -/
structure Failure where
  message : String
  causes : List String := []
deriving DecidableEq, Repr

/-- Explains a failure, which becomes the first cause. -/
def Failure.context (failure : Failure) (message : String) : Failure :=
  ⟨message, failure.message :: failure.causes⟩

/-- What ends a command before it has anything to print. -/
inductive Stop where
  | failed (failure : Failure)
  /-- The command breaks down and has nothing to report. -/
  | crashed
deriving DecidableEq, Repr

/-- Explains a stop.  A crash cannot be explained. -/
def Stop.context (message : String) : Stop → Stop
  | failed failure => .failed (failure.context message)
  | crashed => .crashed

/-- Ways in which the database fails. -/
inductive DatabaseFault where
  | rowNotFound
  | poolClosed
  | poolTimedOut
  | workerCrashed
  /-- The connection broke off, or there is none, in the words of the system. -/
  | inputOutput (text : String)
  | columnNotFound (name : String)
  | typeNotFound (name : String)
  | protocol (text : String)
  | configuration (text : String)
  /-- A faulty configuration, by a fault of its own. -/
  | configurationBy (fault : DatabaseFault)
deriving DecidableEq, Repr

namespace DatabaseFault

/-- The wording of a fault. -/
def message : DatabaseFault → String
  | rowNotFound =>
    "no rows returned by a query that expected to return at least one row"
  | poolClosed => "attempted to acquire a connection on a closed pool"
  | poolTimedOut => "pool timed out while waiting for an open connection"
  | workerCrashed => "attempted to communicate with a crashed background worker"
  | inputOutput text => "error communicating with database: " ++ text
  | columnNotFound name => "no column found for name: " ++ name
  | typeNotFound name => "type named " ++ name ++ " not found"
  | protocol text => "encountered unexpected or invalid data: " ++ text
  | configuration text => "error with configuration: " ++ text
  | configurationBy fault => "error with configuration: " ++ fault.message

/-- The messages of the causes, the outermost first.  A fault in the words of something
else has these words as its cause, and a faulty configuration may have a fault behind it
with causes of its own. -/
def causes : DatabaseFault → List String
  | inputOutput text => [text]
  | configuration text => [text]
  | configurationBy fault => fault.message :: fault.causes
  | _ => []

/-- The fault as a failure. -/
def toFailure (fault : DatabaseFault) : Failure :=
  ⟨fault.message, fault.causes⟩

end DatabaseFault

/-- How urgently an error is logged. -/
inductive LogLevel where
  | debug
  | warn
  | error
deriving DecidableEq, Repr

/-- The name of a level. -/
def LogLevel.name : LogLevel → String
  | debug => "Debug"
  | warn => "Warn"
  | error => "Error"

/-- Everything that can go wrong. -/
inductive AppError where
  | database (fault : DatabaseFault)
  | invalidInput (text : String)
  | notFound (text : String)
  | internal (text : String)
  /-- An internal error that keeps a failure from elsewhere as its cause. -/
  | internalFrom (failure : Failure)
  | hostApi (text : String)
  | noHostApi
deriving DecidableEq, Repr

namespace AppError

/-- The error of an input or output operation that failed. -/
def ofInputOutput (text : String) : AppError :=
  .internal ("IO error: " ++ text)

/-- The error of a JSON text that was not accepted. -/
def ofReadFault (fault : ReadFault) : AppError :=
  .invalidInput ("JSON parsing error: " ++ fault.message)

/-- The name of the kind of error. -/
def kindName : AppError → String
  | database _ => "Database"
  | invalidInput _ => "InvalidInput"
  | notFound _ => "NotFound"
  | internal _ => "Internal"
  | internalFrom _ => "Internal"
  | hostApi _ => "HostApi"
  | noHostApi => "NoHostApi"

/-- A code for programs. -/
def code : AppError → String
  | database _ => "DATABASE_ERROR"
  | invalidInput _ => "INVALID_INPUT"
  | notFound _ => "NOT_FOUND"
  | internal _ => "INTERNAL_ERROR"
  | internalFrom _ => "INTERNAL_ERROR"
  | hostApi _ => "HOST_API_ERROR"
  | noHostApi => "NO_HOST_API"

/-- Whether the same call may succeed later. -/
def isRecoverable : AppError → Bool
  | database _ | internal _ | internalFrom _ | hostApi _ => true
  | invalidInput _ | notFound _ | noHostApi => false

/-- Bad input is expected, a missing host is worth a warning, and everything else
is an error. -/
def logLevel : AppError → LogLevel
  | invalidInput _ | notFound _ => .debug
  | noHostApi => .warn
  | database _ | internal _ | internalFrom _ | hostApi _ => .error

/-- The wording of an error. -/
def message : AppError → String
  | database fault => "Database error: " ++ fault.message
  | invalidInput text => "Invalid input: " ++ text
  | notFound text => "Not found: " ++ text
  | internal text => "Internal error: " ++ text
  | internalFrom _ => "Internal error with source"
  | hostApi text => "Host API error: " ++ text
  | noHostApi => "No host plugin API available"

/-- The messages of the causes, the outermost first. -/
def causes : AppError → List String
  | database fault => fault.message :: fault.causes
  | internalFrom failure => failure.message :: failure.causes
  | _ => []

/-- The number of causes that a detailed message lists. -/
def listedCauses : Nat := 5

/-- Lists causes behind a text, a line for each.  `listed` counts the lines that are there
already; in place of a cause that would be one too many, a last line says that there are
others. -/
def listCauses (text : String) (listed : Nat) : List String → String
  | [] => text
  | cause :: deeper =>
    if listedCauses < listed + 1 then text ++ "\n  ... (truncated)"
    else listCauses (text ++ ("\n  Caused by: " ++ cause)) (listed + 1) deeper

/-- The message with a line for each of the first causes, and one more line if
there are others. -/
def detailedMessage (error : AppError) : String :=
  listCauses error.message 0 error.causes

/-- The error as a failure. -/
def toFailure (error : AppError) : Failure :=
  ⟨error.message, error.causes⟩

end AppError

/-- A step that changes a state and may fail; a failed step keeps the state that it
had reached. -/
abbrev Action (σ : Type) := EStateM AppError σ

end CardLimits
