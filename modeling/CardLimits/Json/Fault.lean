/-!
# What is wrong with a text

`Fault` lists the ways in which a text fails to be JSON.  Each is either an early
end, which more text could have mended, or a mistake at some place.
`Fault.message` gives the wording.
-/

namespace CardLimits.Json

/-- How a text fails to be JSON. -/
inductive Fault where
  /-- The text ends where a value is due, or inside a word or a number. -/
  | endInValue
  | endInArray
  | endInObject
  | endInString
  /-- Something else stands where a value is due. -/
  | noValue
  /-- A name is not followed by a colon. -/
  | noColon
  /-- An item is followed neither by a comma nor by the end of its array. -/
  | noItemEnd
  /-- A member is followed neither by a comma nor by the end of its object. -/
  | noMemberEnd
  /-- Something else stands where the name of a member is due. -/
  | noName
  /-- A closing bracket follows a comma. -/
  | trailingComma
  /-- Something follows where nothing may. -/
  | trailingText
  /-- A word other than `null`, `true` and `false`. -/
  | unknownWord
  | badNumber
  /-- A number beyond the doubles. -/
  | numberTooLarge
  /-- A character below U+0020 stands in a string as it is. -/
  | controlCharacter
  /-- A letter after a backslash that makes no escape. -/
  | unknownEscape
  /-- An escape by digits that are not four hexadecimal ones. -/
  | badDigits
  /-- The first half of a surrogate pair is not followed by an escape by digits. -/
  | halfPair
  /-- A second half of a surrogate pair stands alone, or the escape by digits after a
  first half is no second half. -/
  | brokenPair
  /-- Arrays and objects are nested too deeply. -/
  | tooDeep
deriving DecidableEq, Repr

namespace Fault

/-- Whether the text merely ends too early. -/
def isEarlyEnd : Fault → Bool
  | endInValue | endInArray | endInObject | endInString => true
  | _ => false

/-- The wording of a fault. -/
def message : Fault → String
  | endInValue => "EOF while parsing a value"
  | endInArray => "EOF while parsing a list"
  | endInObject => "EOF while parsing an object"
  | endInString => "EOF while parsing a string"
  | noValue => "expected value"
  | noColon => "expected `:`"
  | noItemEnd => "expected `,` or `]`"
  | noMemberEnd => "expected `,` or `\x7d`"
  | noName => "key must be a string"
  | trailingComma => "trailing comma"
  | trailingText => "trailing characters"
  | unknownWord => "expected ident"
  | badNumber => "invalid number"
  | numberTooLarge => "number out of range"
  | controlCharacter => "control character (\\u0000-\\u001F) found while parsing a string"
  | unknownEscape => "invalid escape"
  | badDigits => "invalid escape"
  | halfPair => "unexpected end of hex escape"
  | brokenPair => "lone leading surrogate in hex escape"
  | tooDeep => "recursion limit exceeded"

end Fault

end CardLimits.Json
