/-!
# Binary floating point numbers of 64 bits

A number is held as its bits: one sign bit, eleven exponent bits, fifty-two
fraction bits. Every finite magnitude is a whole number of units of `2 ^ (-1074)`,
the smallest positive one, so values are compared and rounded in exact natural
number arithmetic and no machine operation is needed.

The one rounding rule is `ofRatio`: the nearest representable number, a tie going
to the even significand, and an infinity beyond the largest finite number.
Multiplication and division round an exact ratio once. Any two numbers can be
multiplied and any number brought to an integer, infinities and NaN included. Division
and the conversions to whole numbers of units are meant for finite numbers and read the
significand and scale fields as they stand.
-/

namespace Syndication

/-- A 64-bit floating point number, held as its bits. Equality of this type is equality
of representations; `Binary64.sameNumber` is numerical equality. -/
structure Binary64 where
  bits : UInt64
  deriving DecidableEq, Repr, Inhabited

namespace Binary64

/-- Number of explicit fraction bits. -/
def fractionBits : Nat := 52

/-- The exponent field shared by the infinities and NaN. -/
def specialExponent : Nat := 2047

/-- One over the unit of magnitude, which is the smallest positive number. -/
def unitsInOne : Nat := Nat.pow 2 1074

/-- True for negative numbers, negative zero included. -/
def isNegative (number : Binary64) : Bool := Nat.pow 2 63 ≤ number.bits.toNat

/-- The eleven exponent bits. -/
def exponentField (number : Binary64) : Nat := number.bits.toNat / Nat.pow 2 52 % Nat.pow 2 11

/-- The fifty-two fraction bits. -/
def fractionField (number : Binary64) : Nat := number.bits.toNat % Nat.pow 2 52

/-- True unless the number is an infinity or NaN. -/
def isFinite (number : Binary64) : Bool := number.exponentField ≠ specialExponent

/-- True for the values that are not numbers. -/
def isNaN (number : Binary64) : Bool :=
  number.exponentField = specialExponent && number.fractionField ≠ 0

/-- The significand as a whole number, with the implicit leading bit of a normal number. -/
def significand (number : Binary64) : Nat :=
  if number.exponentField = 0 then number.fractionField
  else number.fractionField + Nat.pow 2 fractionBits

/-- The power of two, counted in units, that the significand is multiplied by. Subnormal
numbers and the smallest normal ones share the scale zero. -/
def scale (number : Binary64) : Nat := number.exponentField - 1

/-- The magnitude of a finite number, counted in units of `2 ^ (-1074)`. -/
def units (number : Binary64) : Nat := number.significand * Nat.pow 2 number.scale

/-- True for both zeros. -/
def isZero (number : Binary64) : Bool := number.bits.toNat % Nat.pow 2 63 = 0

/-- The value that is not a number. -/
def nan : Binary64 := ⟨0x7ff8000000000000⟩

/-- The infinity of the given sign. -/
def infinity (negative : Bool) : Binary64 :=
  ⟨if negative then 0xfff0000000000000 else 0x7ff0000000000000⟩

/-- Numerical equality: the zeros are equal to each other and NaN to nothing. -/
def sameNumber (left right : Binary64) : Bool :=
  !left.isNaN && !right.isNaN && (left.bits = right.bits || (left.isZero && right.isZero))

/-- The nearest whole number to a ratio, a tie going to the even one. -/
def nearestEven (numerator denominator : Nat) : Nat :=
  let quotient := numerator / denominator
  let remainder := numerator % denominator
  if denominator < 2 * remainder ∨ (denominator = 2 * remainder ∧ quotient % 2 = 1) then
    quotient + 1
  else quotient

/-- The nearest number to a ratio of whole numbers, with the given sign. A carry out of
the significand moves into the exponent field by plain addition, which is the next
larger number; from the largest finite number on, the result is an infinity. -/
def ofRatio (negative : Bool) (numerator denominator : Nat) : Binary64 :=
  let counted := numerator * unitsInOne / denominator
  let power := counted.log2 - fractionBits
  let rounded := nearestEven (numerator * unitsInOne) (denominator * Nat.pow 2 power)
  let gap := Nat.pow 2 fractionBits
  let magnitude := min (power * gap + rounded) (specialExponent * gap)
  ⟨UInt64.ofNat (magnitude + if negative then Nat.pow 2 63 else 0)⟩

/-- The nearest number to a natural number. -/
def ofNat (value : Nat) : Binary64 := ofRatio false value 1

/-- The nearest number to an integer. -/
def ofInt (value : Int) : Binary64 := ofRatio (value < 0) value.natAbs 1

/-- The opposite number: the sign bit is flipped. -/
def neg (number : Binary64) : Binary64 := ⟨number.bits ^^^ 0x8000000000000000⟩

/-- The rounded product. It is NaN if a factor is, or if a zero meets an infinity; otherwise
an infinite factor makes it infinite. -/
def mul (left right : Binary64) : Binary64 :=
  let negative := left.isNegative != right.isNegative
  if left.isNaN || right.isNaN then nan
  else if left.isFinite && right.isFinite then
    ofRatio negative (left.units * right.units) (unitsInOne * unitsInOne)
  else if left.isZero || right.isZero then nan
  else infinity negative

/-- The rounded quotient of two finite numbers, the second of which is not zero. -/
def div (left right : Binary64) : Binary64 :=
  ofRatio (left.isNegative != right.isNegative) left.units right.units

/-- The nearest integer to a finite number, a tie going away from zero. -/
def roundAway (number : Binary64) : Int :=
  let rounded := (2 * number.units + unitsInOne) / (2 * unitsInOne)
  if number.isNegative then -(rounded : Int) else rounded

/-- An integer forced into the range of a 64-bit word. -/
def clampInt64 (value : Int) : Int64 :=
  Int64.ofInt (max Int64.minValue.toInt (min Int64.maxValue.toInt value))

/-- The nearest integer as a 64-bit word. Magnitudes out of range, the infinities among
them, go to the nearer end; NaN goes to zero. -/
def toInt64Away (number : Binary64) : Int64 :=
  if number.isNaN then 0
  else if number.isFinite then clampInt64 number.roundAway
  else if number.isNegative then Int64.minValue
  else Int64.maxValue

end Binary64

end Syndication
