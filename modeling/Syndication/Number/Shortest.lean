import Syndication.Number.Binary64

/-!
# The shortest decimal that reads back

Every finite nonzero number has an interval of reals that round to it, its ends
included exactly when its significand is even. The shortest decimal is the one
with the fewest digits inside that interval, and among those of equal length the
nearest to the number; an exact tie is settled by the format that asks.

For each digit count only two candidates matter: the neighbours of the number on
that decimal grid. Bounds and candidates are compared in exact arithmetic, counted
in quarter units so that half the smaller gap is a whole number.
-/

namespace Syndication

/-- Which of two equally near decimals is chosen. -/
inductive DecimalTie where
  | upper
  | even
  deriving DecidableEq, Repr

/-- The decimal number `digits * 10 ^ exponent`. -/
structure ShortDecimal where
  digits : Nat
  exponent : Int
  deriving DecidableEq, Repr

namespace ShortDecimal

/-- The digits as text. -/
def text (decimal : ShortDecimal) : List Char := Nat.toDigits 10 decimal.digits

/-- Removes trailing zeros from the digits, at most `limit` of them. -/
def trim (decimal : ShortDecimal) : Nat → ShortDecimal
  | 0 => decimal
  | limit + 1 =>
    if decimal.digits % 10 = 0 ∧ decimal.digits ≠ 0 then
      trim ⟨decimal.digits / 10, decimal.exponent + 1⟩ limit
    else decimal

end ShortDecimal

namespace Binary64

/-- Quarter units in one. -/
def quartersInOne : Nat := 4 * unitsInOne

/-- The decimal exponent of the leading digit of a positive magnitude in quarter units:
the largest power of ten not above it. -/
def leadingExponent (quarters : Nat) : Int :=
  if quartersInOne ≤ quarters then
    ((Nat.toDigits 10 (quarters / quartersInOne)).length : Int) - 1
  else
    match (List.range 330).find? fun shift => quartersInOne ≤ quarters * Nat.pow 10 (shift + 1) with
    | some shift => -((shift : Int) + 1)
    | none => -330

/-- The better neighbour of a number on the grid of multiples of `10 ^ exponent`, when one
of its two neighbours there reads back as the number. -/
def neighbour? (number : Binary64) (tie : DecimalTie) (exponent : Int) : Option Nat :=
  let shrink := Nat.pow 10 exponent.toNat
  let grow := Nat.pow 10 (-exponent).toNat
  let value := 4 * number.units * grow
  let grid := quartersInOne * shrink
  let gap := Nat.pow 2 number.scale
  let above := 2 * gap * grow
  let below := if number.fractionField = 0 ∧ 0 < number.scale then gap * grow else above
  let closed := number.significand % 2 = 0
  let lower := value / grid
  let overLower := value - lower * grid
  let underUpper := (lower + 1) * grid - value
  let lowerFits := 0 < lower ∧ (overLower < below ∨ (closed ∧ overLower = below))
  let upperFits := underUpper < above ∨ (closed ∧ underUpper = above)
  if lowerFits ∧ upperFits then
    if overLower < underUpper then some lower
    else if underUpper < overLower then some (lower + 1)
    else match tie with
      | .upper => some (lower + 1)
      | .even => some (if lower % 2 = 0 then lower else lower + 1)
  else if lowerFits then some lower
  else if upperFits then some (lower + 1)
  else none

/-- The shortest decimal that reads back as a finite number; zero for the zeros. Seventeen
digits always suffice. -/
def shortest (number : Binary64) (tie : DecimalTie) : ShortDecimal :=
  if number.units = 0 then ⟨0, 0⟩
  else
    let leading := leadingExponent (4 * number.units)
    match (List.range 17).findSome? fun (count : Nat) =>
        (number.neighbour? tie (leading - count)).map fun digits =>
          ShortDecimal.mk digits (leading - count) with
    | some decimal => decimal.trim 17
    | none => ⟨number.units, -1074⟩

/-- A decimal in positional notation, never with an exponent, and with a point only where
there are fraction digits. -/
def positional (decimal : ShortDecimal) : List Char :=
  let digits := decimal.text
  if 0 ≤ decimal.exponent then digits ++ List.replicate decimal.exponent.toNat '0'
  else
    let places := (-decimal.exponent).toNat
    if places < digits.length then
      digits.take (digits.length - places) ++ '.' :: digits.drop (digits.length - places)
    else ['0', '.'] ++ List.replicate (places - digits.length) '0' ++ digits

/-- The text of a number in messages and queries: the shortest digits in positional
notation, the larger decimal on a tie, and a sign also on negative zero. -/
def plainText (number : Binary64) : String :=
  if number.isNaN then "NaN"
  else
    let magnitude := if number.isFinite then positional (number.shortest .upper) else "inf".toList
    String.ofList (if number.isNegative then '-' :: magnitude else magnitude)

end Binary64

end Syndication
