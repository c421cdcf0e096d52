/-!
# Names in the letters of ASCII

A label of a domain name that has characters beyond ASCII is written with its ASCII
characters first, then the positions and values of the others as a run of digits in
radix 36. The digits of a number are written from the least one on; a threshold that
depends on the place tells the last digit, and adapts to the size of the numbers
written so far.

Each loop ends because the number it divides gets smaller, because it walks a list, or
because a number that is read leaves less text behind.
-/

namespace Syndication.Text.Punycode

/-- The letter or digit that stands for a value below 36. -/
def digit (value : Nat) : Char :=
  "abcdefghijklmnopqrstuvwxyz0123456789".toList.getD value 'a'

/-- Brings a number down to the range of the bias, counting the steps in units of 36. -/
def settle (number places : Nat) : Nat × Nat :=
  if 455 < number then settle (number / 35) (places + 36) else (number, places)
termination_by number
decreasing_by exact Nat.div_lt_self (by omega) (by omega)

/-- The bias after a number has been written, `count` being how many characters are then
placed. The first number is damped more than the later ones. -/
def adapt (number count : Nat) (first : Bool) : Nat :=
  let damped := if first then number / 700 else number / 2
  let (settled, places) := settle (damped + damped / count) 0
  places + 36 * settled / (settled + 38)

/-- The least value of a digit that is not the last one, at a place. -/
def threshold (bias place : Nat) : Nat := min 26 (max 1 (place - bias))

/-- Every number from the threshold on gets smaller when it is divided. -/
theorem threshold_pos (bias place : Nat) : 1 ≤ threshold bias place := by
  unfold threshold; omega

/-- The digits of a number from a place on. -/
def digits (bias place number : Nat) : List Char :=
  let least := threshold bias place
  if number < least then [digit number]
  else
    digit (least + (number - least) % (36 - least)) ::
      digits bias (place + 36) ((number - least) / (36 - least))
termination_by number
decreasing_by
  have positive := threshold_pos bias place
  exact Nat.lt_of_le_of_lt (Nat.div_le_self _ _) (by omega)

/-- What has been written, the distance to the next character, and how many characters
are placed. -/
structure Progress where
  written : List Char
  distance : Nat
  bias : Nat
  placed : Nat

/-- Passes over one character of the label while characters of one value are placed. -/
def pass (basic value : Nat) (progress : Progress) (character : Char) : Progress :=
  if character.toNat < value then { progress with distance := progress.distance + 1 }
  else if character.toNat = value then
    { written := progress.written ++ digits progress.bias 36 progress.distance
      distance := 0
      bias := adapt progress.distance (progress.placed + 1) (progress.placed == basic)
      placed := progress.placed + 1 }
  else progress

/-- Places the characters of each of the given values, in increasing order. -/
def placeAll (label : List Char) (basic : Nat) : List Nat → Nat → Progress → Progress
  | [], _, progress => progress
  | value :: rest, next, progress =>
    let moved := { progress with
      distance := progress.distance + (value - next) * (progress.placed + 1) }
    let passed := label.foldl (pass basic value) moved
    placeAll label basic rest (value + 1) { passed with distance := passed.distance + 1 }

/-- The values of the characters beyond ASCII, each once, in increasing order. -/
def extendedValues (label : List Char) : List Nat :=
  let values := (label.filter fun character => 0x80 ≤ character.toNat).map Char.toNat
  (values.mergeSort fun left right => left ≤ right).eraseDups

/-- A label in the letters of ASCII, without the mark that tells such labels. -/
def encode (label : List Char) : List Char :=
  let basic := label.filter fun character => character.toNat < 0x80
  let start : Progress := ⟨[], 0, 72, basic.length⟩
  let extended := (placeAll label basic.length (extendedValues label) 0x80 start).written
  if basic.isEmpty then extended else basic ++ '-' :: extended

/-! ## Reading -/

/-- The value of a letter or digit. -/
def digitValue? (character : Char) : Option Nat :=
  "abcdefghijklmnopqrstuvwxyz0123456789".toList.idxOf? character

/-- Reads the digits of a number from a place on, whose unit is `weight`, and adds the number
to `value`. -/
def number? (bias : Nat) : List Char → Nat → Nat → Nat → Option (Nat × List Char)
  | [], _, _, _ => none
  | character :: rest, place, weight, value =>
    match digitValue? character with
    | none => none
    | some digit =>
      let least := threshold bias place
      if digit < least then some (value + digit * weight, rest)
      else number? bias rest (place + 36) (weight * (36 - least)) (value + digit * weight)

/-- A number takes at least one digit. -/
theorem length_of_number? (bias : Nat) (text : List Char) (place weight value : Nat)
    (result : Nat × List Char) (found : number? bias text place weight value = some result) :
    result.2.length < text.length := by
  induction text generalizing place weight value with
  | nil => simp [number?] at found
  | cons character rest inductionHypothesis =>
    rw [number?] at found
    split at found
    · simp at found
    · dsimp only at found
      split at found
      · simp only [Option.some.injEq] at found
        subst found
        simp
      · have shorter := inductionHypothesis _ _ _ found
        simp only [List.length_cons]
        omega

/-- True for the code point of a character. -/
def isCharacter (codePoint : Nat) : Bool :=
  codePoint < 0xd800 || (0xdfff < codePoint && codePoint < 0x110000)

/-- Inserts the characters that the rest of a text tells. A number counts the positions and
values from the last inserted character on, which has the value `codePoint` and is in front
of `position`. -/
def insertAll? (bias codePoint position : Nat) (placed : List Char) :
    List Char → Option (List Char)
  | [] => some placed
  | character :: rest =>
    match _found : number? bias (character :: rest) 36 1 position with
    | none => none
    | some (distance, remaining) =>
      let count := placed.length + 1
      let next := codePoint + distance / count
      if isCharacter next then
        insertAll? (adapt (distance - position) count (position == 0)) next
          (distance % count + 1) (placed.insertIdx (distance % count) (Char.ofNat next)) remaining
      else none
termination_by text => text.length
decreasing_by exact length_of_number? _ _ _ _ _ _ _found

/-- The characters in front of the last hyphen, and those behind it. -/
def splitAtLastHyphen (text : List Char) : List Char × List Char :=
  let behind := (text.reverse.takeWhile fun character => character ≠ '-').reverse
  (text.take (text.length - behind.length - 1), behind)

/-- The label that a text in the letters of ASCII stands for, without the mark that tells such
labels. A hyphen with nothing in front of it divides nothing. -/
def decode? (text : List Char) : Option (List Char) :=
  let (basic, numbers) := splitAtLastHyphen text
  if basic.isEmpty then insertAll? 72 0x80 0 [] text else insertAll? 72 0x80 0 basic numbers

end Syndication.Text.Punycode
