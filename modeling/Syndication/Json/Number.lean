import Syndication.Json.Basic
import Syndication.Text.Integer

/-!
# Numbers of a JSON text

A number without fraction and exponent is an integer when it lies between the
smallest signed and the largest unsigned 64-bit word, except that `-0` is the
negative zero of the floating point numbers. Every other number is a float.

A float is read in bounded precision. Its digits are gathered while they fit an
unsigned 64-bit word: further integer digits only raise the exponent and further
fraction digits are dropped. The gathered number, rounded, is then multiplied or
divided by a rounded power of ten. The result can differ in its last bit from the
number nearest to the text, and a product beyond the largest float is refused.
-/

namespace Syndication.Json

/-- The largest number that digits are gathered into. -/
def gatherLimit : Nat := Nat.pow 2 64 - 1

/-- The largest exponent that is kept as a number. -/
def exponentLimit : Nat := Nat.pow 2 31 - 1

/-- Digits gathered so far, and the power of ten they are to be multiplied by. -/
structure Gathered where
  significand : Nat
  exponent : Int
  deriving Repr

namespace Gathered

/-- Gathers integer digits. From the first one that does not fit, each digit counts as a
factor of ten. -/
def integerDigits (gathered : Gathered) : List Nat → Gathered
  | [] => gathered
  | digit :: rest =>
    if gathered.significand * 10 + digit ≤ gatherLimit then
      integerDigits { gathered with significand := gathered.significand * 10 + digit } rest
    else { gathered with exponent := gathered.exponent + (rest.length + 1) }

/-- Gathers fraction digits up to the first one that does not fit. -/
def fractionDigits (gathered : Gathered) : List Nat → Gathered
  | [] => gathered
  | digit :: rest =>
    if gathered.significand * 10 + digit ≤ gatherLimit then
      fractionDigits ⟨gathered.significand * 10 + digit, gathered.exponent - 1⟩ rest
    else gathered

/-- A rounded power of ten. -/
def powerOfTen (power : Nat) : Binary64 := Binary64.ofNat (Nat.pow 10 power)

/-- Scales a magnitude by a power of ten. Exponents below the range of the powers are
taken in steps of the smallest one; after three steps nothing is left of any gathered
number. -/
def scaled? (magnitude : Binary64) (exponent : Int) : Nat → Option Binary64
  | 0 => some magnitude
  | steps + 1 =>
    if 308 < exponent then
      if magnitude.isZero then some magnitude else none
    else if 0 ≤ exponent then
      let product := magnitude.mul (powerOfTen exponent.toNat)
      if product.isFinite then some product else none
    else if -308 ≤ exponent then some (magnitude.div (powerOfTen (-exponent).toNat))
    else scaled? (magnitude.div (powerOfTen 308)) (exponent + 308) steps

/-- The float that gathered digits denote, when it is finite. -/
def float? (gathered : Gathered) (negative : Bool) : Option Binary64 :=
  (scaled? (Binary64.ofNat gathered.significand) gathered.exponent 4).map fun magnitude =>
    if negative then magnitude.neg else magnitude

end Gathered

/-- A number as it is written: its sign, its digits before and after the point, and its
exponent with sign. Absent parts are empty. -/
structure NumberText where
  negative : Bool
  integer : List Nat
  fraction : List Nat
  exponent : Option (Bool × List Nat)
  deriving Repr

namespace NumberText

/-- The value of a run of digits. -/
def digitsValue (digits : List Nat) : Nat := digits.foldl (fun value digit => 10 * value + digit) 0

/-- An integer that lies between the smallest signed and the largest unsigned word. -/
def integer? (number : NumberText) : Option Int :=
  let magnitude := digitsValue number.integer
  if !number.fraction.isEmpty || number.exponent.isSome then none
  else if number.negative then
    if magnitude = 0 ∨ Nat.pow 2 63 < magnitude then none else some (-(magnitude : Int))
  else if magnitude ≤ gatherLimit then some magnitude
  else none

/-- The float that a number denotes. An exponent too long to keep leaves zero, unless it
would make a nonzero number larger. -/
def float? (number : NumberText) : Option Binary64 :=
  let gathered := ((Gathered.mk 0 0).integerDigits number.integer).fractionDigits number.fraction
  match number.exponent with
  | none => gathered.float? number.negative
  | some (negativeExponent, digits) =>
    let exponent := digitsValue digits
    if exponentLimit < exponent then
      if gathered.significand ≠ 0 ∧ !negativeExponent then none
      else (Gathered.mk 0 0).float? number.negative
    else if negativeExponent then
      Gathered.float? { gathered with exponent := gathered.exponent - exponent } number.negative
    else Gathered.float? { gathered with exponent := gathered.exponent + exponent } number.negative

/-- The JSON value of a number. -/
def value (number : NumberText) : Json :=
  match number.integer? with
  | some value => .int value
  | none =>
    match number.float? with
    | some value => .float value
    | none => .unreadable

/-- The longest run of digits that a text begins with, and the rest. -/
def takeDigits : List Char → List Nat × List Char
  | [] => ([], [])
  | character :: rest =>
    match Text.digit? character with
    | some digit =>
      let (digits, remaining) := takeDigits rest
      (digit :: digits, remaining)
    | none => ([], character :: rest)

/-- The fraction that may follow an integer part; a point needs a digit after it. -/
def readFraction? : List Char → Option (List Nat × List Char)
  | '.' :: rest =>
    match takeDigits rest with
    | ([], _) => none
    | (digits, remaining) => some (digits, remaining)
  | rest => some ([], rest)

/-- The digits of an exponent, of which there is at least one. -/
def readExponentDigits? (negative : Bool) (rest : List Char) :
    Option (Option (Bool × List Nat) × List Char) :=
  match takeDigits rest with
  | ([], _) => none
  | (digits, remaining) => some (some (negative, digits), remaining)

/-- The exponent that may follow a number. -/
def readExponent? : List Char → Option (Option (Bool × List Nat) × List Char)
  | character :: rest =>
    if character = 'e' ∨ character = 'E' then
      match rest with
      | '+' :: digits => readExponentDigits? false digits
      | '-' :: digits => readExponentDigits? true digits
      | digits => readExponentDigits? false digits
    else some (none, character :: rest)
  | [] => some (none, [])

/-- The number that a text begins with. An integer part of several digits does not begin
with a zero. -/
def read? (text : List Char) : Option (NumberText × List Char) := do
  let (negative, unsigned) := match text with
    | '-' :: rest => (true, rest)
    | rest => (false, rest)
  let (integer, afterInteger) := takeDigits unsigned
  if integer.isEmpty || (integer.head? = some 0 && 1 < integer.length) then none
  else
    let (fraction, afterFraction) ← readFraction? afterInteger
    let (exponent, remaining) ← readExponent? afterFraction
    some (⟨negative, integer, fraction, exponent⟩, remaining)

end NumberText

end Syndication.Json
