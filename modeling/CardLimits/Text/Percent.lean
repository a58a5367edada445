import CardLimits.Text.Hex
/-!
# Percent encoding

A percent sign with two hexadecimal digits stands for the byte of that value.  A percent
sign without them, and every other character, stands for its own encoding.
-/

namespace CardLimits.Text

/-- The bytes that a percent-encoded text stands for. -/
def percentDecode : List Char → List UInt8
  | '%' :: high :: low :: rest =>
    match hexDigit? high, hexDigit? low with
    | some first, some second => UInt8.ofNat (first * 16 + second) :: percentDecode rest
    | _, _ => String.utf8EncodeChar '%' ++ percentDecode (high :: low :: rest)
  | character :: rest => String.utf8EncodeChar character ++ percentDecode rest
  | [] => []

end CardLimits.Text
