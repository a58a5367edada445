import CardLimits.Json.Fault
/-!
# Readable and unreadable pieces of text

A piece of JSON text is asked for in one of two ways: it is read, when its value
is needed, or skipped, when it stands under a name that nobody asked for.  The
two differ on what they refuse, so a piece that is not simply fine keeps both
answers.
-/

namespace CardLimits.Json

/-- A place where a piece of text breaks off, and what reading it and skipping it
then report. -/
structure Break where
  reading : Fault
  skipping : Fault
deriving DecidableEq, Repr

/-- A break that is reported alike in both ways. -/
def Break.both (fault : Fault) : Break :=
  ⟨fault, fault⟩

/-- What a piece of text came to. -/
inductive Lexeme (α : Type) where
  | value (value : α)
  /-- Well formed, so that skipping it is fine, but without a value: reading it
  reports a fault. -/
  | valueless (fault : Fault)
  | broken (place : Break)
deriving Repr

namespace Lexeme

/-- Changes the value, if there is one. -/
def map {α β : Type} (change : α → β) : Lexeme α → Lexeme β
  | value content => .value (change content)
  | valueless fault => .valueless fault
  | broken place => .broken place

/-- Reads the value. -/
def read {α : Type} : Lexeme α → Except Fault α
  | value content => .ok content
  | valueless fault => .error fault
  | broken place => .error place.reading

/-- Passes over the piece without asking for its value. -/
def skip {α : Type} : Lexeme α → Except Fault Unit
  | broken place => .error place.skipping
  | _ => .ok ()

end Lexeme

end CardLimits.Json
