/-!
# Integers in decimal

A decimal literal is an optional sign followed by at least one ASCII digit.
Superfluous leading zeros, a plus sign and a negative zero are accepted, so a
number has many literals; its canonical one is what `toString` writes. Digits of
other scripts and blanks are refused.

Runs of digits in another radix, letters in either case standing for the digits from
ten on, have no sign. The bounded readers refuse a literal whose value lies outside
the range of the signed word it is meant for, rather than wrapping it.
-/

namespace Syndication.Text

/-- The value of an ASCII digit. -/
def digit? (character : Char) : Option Nat :=
  if '0' ≤ character ∧ character ≤ '9' then some (character.toNat - '0'.toNat) else none

/-- Continues a decimal number: `value` is what the digits before `characters` amount to. -/
def naturalFrom? (value : Nat) : List Char → Option Nat
  | [] => some value
  | character :: rest =>
    match digit? character with
    | some digit => naturalFrom? (10 * value + digit) rest
    | none => none

/-- The value of a nonempty run of digits. -/
def natural? : List Char → Option Nat
  | [] => none
  | characters => naturalFrom? 0 characters

/-- The value of a hexadecimal digit in either case. -/
def hexDigit? (character : Char) : Option Nat :=
  if '0' ≤ character ∧ character ≤ '9' then some (character.toNat - '0'.toNat)
  else if 'a' ≤ character ∧ character ≤ 'f' then some (character.toNat - 'a'.toNat + 10)
  else if 'A' ≤ character ∧ character ≤ 'F' then some (character.toNat - 'A'.toNat + 10)
  else none

/-- Continues a number in a radix of at most sixteen. -/
def naturalInFrom? (radix value : Nat) : List Char → Option Nat
  | [] => some value
  | character :: rest =>
    match hexDigit? character with
    | some digit =>
      if digit < radix then naturalInFrom? radix (radix * value + digit) rest else none
    | none => none

/-- The value of a nonempty run of digits in a radix of at most sixteen. -/
def naturalIn? (radix : Nat) : List Char → Option Nat
  | [] => none
  | characters => naturalInFrom? radix 0 characters

/-- The value of a decimal literal, of any size. -/
def integer? : List Char → Option Int
  | '-' :: digits => (natural? digits).map fun value => -(value : Int)
  | '+' :: digits => (natural? digits).map Int.ofNat
  | digits => (natural? digits).map Int.ofNat

/-- An integer as a 64-bit word, when it is in range. -/
def int64? (value : Int) : Option Int64 :=
  if Int64.minValue.toInt ≤ value ∧ value ≤ Int64.maxValue.toInt then some (Int64.ofInt value)
  else none

/-- An integer as a 32-bit word, when it is in range. -/
def int32? (value : Int) : Option Int32 :=
  if Int32.minValue.toInt ≤ value ∧ value ≤ Int32.maxValue.toInt then some (Int32.ofInt value)
  else none

/-- The 64-bit integer that a text denotes as a whole. -/
def readInt64? (text : String) : Option Int64 :=
  (integer? text.toList).bind int64?

end Syndication.Text
