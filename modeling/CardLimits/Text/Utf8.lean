/-!
# Bytes as UTF-8

A character is one byte below 0x80, or a lead byte and one to three continuation
bytes.  A lead byte fixes their number and the range of the first of them, so that no
character has two encodings and no surrogate has one; all others lie between 0x80 and
0xBF.

`scan` reads bytes from left to right.  Bytes that begin a character and then break off
are reported together, and the byte that breaks them off is looked at afresh.
-/

namespace CardLimits.Text

/-- Where bytes stop being UTF-8. -/
inductive Utf8Fault where
  /-- Some bytes that begin no character, and the number of bytes in front of them. -/
  | invalid (length index : Nat)
  /-- The bytes end inside a character; the number of bytes in front of it. -/
  | incomplete (index : Nat)
deriving DecidableEq, Repr

/-- The wording of a fault. -/
def Utf8Fault.message : Utf8Fault → String
  | invalid length index =>
    "invalid utf-8 sequence of " ++ toString length ++ " bytes from index " ++ toString index
  | incomplete index => "incomplete utf-8 byte sequence from index " ++ toString index

namespace Utf8

/-- A character of which some bytes have been read. -/
structure Partial where
  /-- What the bytes so far amount to. -/
  value : Nat
  /-- The number of bytes so far. -/
  seen : Nat
  /-- The number of bytes that are still due. -/
  due : Nat
  /-- The range of the next byte. -/
  low : UInt8 := 0x80
  high : UInt8 := 0xBF
deriving DecidableEq, Repr

/-- The character that a lead byte begins, if it begins one of several bytes. -/
def Partial.ofLead? (byte : UInt8) : Option Partial :=
  let bits := byte.toNat
  if 0xC2 ≤ byte && byte ≤ 0xDF then some ⟨bits % 32, 1, 1, 0x80, 0xBF⟩
  else if byte = 0xE0 then some ⟨bits % 16, 1, 2, 0xA0, 0xBF⟩
  else if byte = 0xED then some ⟨bits % 16, 1, 2, 0x80, 0x9F⟩
  else if 0xE1 ≤ byte && byte ≤ 0xEF then some ⟨bits % 16, 1, 2, 0x80, 0xBF⟩
  else if byte = 0xF0 then some ⟨bits % 8, 1, 3, 0x90, 0xBF⟩
  else if 0xF1 ≤ byte && byte ≤ 0xF3 then some ⟨bits % 8, 1, 3, 0x80, 0xBF⟩
  else if byte = 0xF4 then some ⟨bits % 8, 1, 3, 0x80, 0x8F⟩
  else none

/-- What a byte at a position is, when no character has been begun: a character or a
fault, or else the beginning of a character. -/
def start (index : Nat) (byte : UInt8) : List (Except Utf8Fault Char) × Option Partial :=
  if byte < 0x80 then ([.ok (Char.ofNat byte.toNat)], none)
  else
    match Partial.ofLead? byte with
    | some begun => ([], some begun)
    | none => ([.error (.invalid 1 index)], none)

/-- What a byte at a position is, behind a character that has perhaps been begun. -/
def step (index : Nat) (begun : Option Partial) (byte : UInt8) :
    List (Except Utf8Fault Char) × Option Partial :=
  match begun with
  | none => start index byte
  | some begun =>
    if begun.low ≤ byte && byte ≤ begun.high then
      let value := begun.value * 64 + byte.toNat % 64
      if begun.due ≤ 1 then ([.ok (Char.ofNat value)], none)
      else ([], some { value, seen := begun.seen + 1, due := begun.due - 1 })
    else
      let (found, next) := start index byte
      (.error (.invalid begun.seen (index - begun.seen)) :: found, next)

/-- The characters and faults of bytes from a position on. -/
def scan (index : Nat) (begun : Option Partial) : List UInt8 → List (Except Utf8Fault Char)
  | [] =>
    match begun with
    | none => []
    | some begun => [.error (.incomplete (index - begun.seen))]
  | byte :: rest =>
    let (found, next) := step index begun byte
    found ++ scan (index + 1) next rest

/-- The text that bytes encode. -/
def decode (bytes : List UInt8) : Except Utf8Fault (List Char) :=
  (scan 0 none bytes).mapM id

/-- The text that bytes encode, with a replacement character for every fault. -/
def decodeLossy (bytes : List UInt8) : List Char :=
  (scan 0 none bytes).map fun
    | .ok character => character
    | .error _ => '\uFFFD'

end Utf8

end CardLimits.Text
