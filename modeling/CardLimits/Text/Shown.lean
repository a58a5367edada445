import CardLimits.Text.Unprintable
/-!
# Text as it is shown inside a message

A text that a message quotes stands between quotation marks.  Quotation marks and
backslashes get a backslash in front, the common controls a one-letter escape,
and every other character without a visible form its code point in braces.
-/

namespace CardLimits.Text

/-- A character as it is shown. -/
def shownChar (character : Char) : List Char :=
  match character with
  | '\x00' => ['\\', '0']
  | '\t' => ['\\', 't']
  | '\n' => ['\\', 'n']
  | '\r' => ['\\', 'r']
  | '"' => ['\\', '"']
  | '\\' => ['\\', '\\']
  | other =>
    if isUnprintable other then
      ['\\', 'u', '{'] ++ Nat.toDigits 16 other.toNat ++ ['}']
    else [other]

/-- A text as it is shown, with its quotation marks. -/
def shown (text : String) : String :=
  String.ofList ('"' :: text.toList.flatMap shownChar ++ ['"'])

end CardLimits.Text
