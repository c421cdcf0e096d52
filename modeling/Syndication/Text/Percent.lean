/-!
# Percent encoding

A byte is written as a percent sign and two hexadecimal digits. Which bytes are
written that way is for each use to say. Decoding replaces every complete escape by
its byte and leaves a percent sign without two digits after it as it is, so it never
fails; whether the bytes are text is a separate question.
-/

namespace Syndication.Text

/-- The value of a byte that is a hexadecimal digit in either case. -/
def hexByte? (byte : UInt8) : Option UInt8 :=
  if 0x30 ≤ byte ∧ byte ≤ 0x39 then some (byte - 0x30)
  else if 0x61 ≤ byte ∧ byte ≤ 0x66 then some (byte - 0x61 + 10)
  else if 0x41 ≤ byte ∧ byte ≤ 0x46 then some (byte - 0x41 + 10)
  else none

/-- The byte that two hexadecimal digits denote. -/
def escapedByte? (high low : UInt8) : Option UInt8 := do
  let first ← hexByte? high
  let second ← hexByte? low
  some (first * 16 + second)

/-- The bytes with every complete escape replaced. -/
def percentDecode : List UInt8 → List UInt8
  | [] => []
  | 0x25 :: high :: low :: rest =>
    match escapedByte? high low with
    | some decoded => decoded :: percentDecode rest
    | none => 0x25 :: percentDecode (high :: low :: rest)
  | byte :: rest => byte :: percentDecode rest

/-- The capital hexadecimal digit of a value below sixteen. -/
def upperHexDigit (value : Nat) : Char := "0123456789ABCDEF".toList.getD value '0'

/-- The escape of a byte. -/
def percentEscape (byte : UInt8) : List Char :=
  ['%', upperHexDigit (byte.toNat / 16), upperHexDigit (byte.toNat % 16)]

/-- The bytes of a character. -/
def characterBytes (character : Char) : List UInt8 := character.toString.toUTF8.toList

/-- Characters with those that `mustEscape` replaced by the escapes of their bytes. -/
def percentEncode (mustEscape : Char → Bool) (characters : List Char) : List Char :=
  characters.flatMap fun character =>
    if mustEscape character then (characterBytes character).flatMap percentEscape
    else [character]

/-- The text that an escaped text stands for, unless its bytes are not text. -/
def percentDecodedText? (text : String) : Option String :=
  String.fromUTF8? (ByteArray.mk (percentDecode text.toUTF8.toList).toArray)

end Syndication.Text
