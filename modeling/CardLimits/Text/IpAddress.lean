import CardLimits.Text.Hex
import CardLimits.Text.Split
/-!
# Addresses of the Internet protocol

An address of version 4 is four numbers up to 255 between points, in decimal without
redundant zeros.

An address of version 6 is eight groups between colons, each of one to four hexadecimal
digits.  An address of version 4 may stand for the last two groups, and two colons in a
row once for one or more groups that are zero.
-/

namespace CardLimits.Text

/-- Whether a text is a number up to 255. -/
def isOctet (text : List Char) : Bool :=
  !text.isEmpty && text.length ≤ 3 && text.all Char.isDigit &&
    (text.length = 1 || text.head? ≠ some '0') && Nat.ofDigitChars 10 text 0 ≤ 255

/-- Whether a text is an address of version 4. -/
def isIPv4 (text : List Char) : Bool :=
  let numbers := split (· = '.') text
  numbers.length = 4 && numbers.all isOctet

/-- Whether a text is a group of an address of version 6. -/
def isGroup (text : List Char) : Bool :=
  !text.isEmpty && text.length ≤ 4 && text.all isHexDigit

/-- The number of groups that the last part of an address stands for. -/
def lastGroups? (part : List Char) : Option Nat :=
  if isGroup part then some 1 else if isIPv4 part then some 2 else none

/-- The number of groups that a text stands for, if it is groups between colons.
`final` says whether the address ends with them. -/
def groups? (final : Bool) (text : List Char) : Option Nat :=
  let parts := split (· = ':') text
  if text.isEmpty then some 0
  else if !final then if parts.all isGroup then some parts.length else none
  else if parts.dropLast.all isGroup then
    (parts.getLast?.bind lastGroups?).map (parts.length - 1 + ·)
  else none

/-- What stands in front of the first two colons in a row, and behind them. -/
def cutColons? : List Char → Option (List Char × List Char)
  | ':' :: ':' :: rest => some ([], rest)
  | character :: rest => (cutColons? rest).map fun (front, back) => (character :: front, back)
  | [] => none

/-- Whether a text is an address of version 6. -/
def isIPv6 (text : List Char) : Bool :=
  match cutColons? text with
  | none => groups? true text = some 8
  | some (front, back) =>
    match groups? false front, groups? true back with
    | some first, some last => first + last ≤ 7
    | _, _ => false

end CardLimits.Text
