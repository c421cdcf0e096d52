import Syndication.Document.Source

/-!
# YAML values

A YAML value is a scalar, a sequence or a mapping. What a scalar means depends on who
asks: as a text it is what was written, quoted or not, while an unquoted scalar can
also be nothing, a truth value or a number. An empty unquoted scalar also counts as an
empty sequence or mapping.

Without a question the scalar is what it looks like. An integer of more than 64 bits
that would still fit 128 bits has no such value; a larger one is a floating point
number. Neither has a collection that stands inside too many others, which is kept as
`unreadable` and may stand where nobody looks at it.
-/

namespace Syndication

/-- A YAML value. -/
inductive Yaml where
  | scalar (text : String) (quoted : Bool)
  | sequence (elements : List Yaml)
  | mapping (entries : List (Yaml × Yaml))
  | unreadable
  deriving Inhabited, Repr

namespace Yaml

/-! ## Unquoted scalars -/

/-- The words for nothing. -/
def nothingWords : List String := ["", "~", "null", "Null", "NULL"]

/-- The truth value that a word denotes. -/
def truth? (text : String) : Option Bool :=
  if ["true", "True", "TRUE"].contains text then some true
  else if ["false", "False", "FALSE"].contains text then some false
  else none

/-- A text without a sign in front of it. -/
def unsigned : List Char → List Char
  | '-' :: rest => rest
  | '+' :: rest => rest
  | text => text

/-- True for digits with a superfluous zero in front, which are no number. -/
def isZeroPadded (text : List Char) : Bool :=
  match unsigned text with
  | '0' :: digit :: digits => (digit :: digits).all Char.isDigit
  | _ => false

/-- The value of a literal without a sign: hexadecimal, octal, binary or decimal. -/
def magnitude? : List Char → Option Nat
  | '0' :: 'x' :: digits => Text.naturalIn? 16 digits
  | '0' :: 'o' :: digits => Text.naturalIn? 8 digits
  | '0' :: 'b' :: digits => Text.naturalIn? 2 digits
  | text => if isZeroPadded text then none else Text.natural? text

/-- The value of a literal that is not negative. -/
def natural? : List Char → Option Nat
  | '+' :: rest => magnitude? rest
  | text => magnitude? text

/-- The value of an integer literal. -/
def integer? : List Char → Option Whole
  | '-' :: rest => (magnitude? rest).map Whole.minus
  | text => (natural? text).map Whole.natural

/-- The digits in front of a text as a number, how many they are, and the rest. -/
def takeDigits (text : List Char) : Nat × Nat × List Char :=
  let digits := text.takeWhile Char.isDigit
  ((Text.naturalFrom? 0 digits).getD 0, digits.length, text.drop digits.length)

/-- The power of ten that a text denotes, if anything is left after a decimal fraction. -/
def exponent? : List Char → Option Int
  | [] => some 0
  | mark :: rest => if mark = 'e' ∨ mark = 'E' then Text.integer? rest else none

/-- The finite number nearest to a decimal, unless there is none. -/
def finite? (negative : Bool) (digits : Nat) (exponent : Int) : Option Binary64 :=
  let size : Int := (Nat.toDigits 10 digits).length + exponent
  let number :=
    if digits = 0 ∨ size < -400 then Binary64.ofRatio negative 0 1
    else if 400 < size then Binary64.ofRatio negative (Nat.pow 10 400) 1
    else if 0 ≤ exponent then Binary64.ofRatio negative (digits * Nat.pow 10 exponent.toNat) 1
    else Binary64.ofRatio negative digits (Nat.pow 10 (-exponent).toNat)
  if number.isFinite then some number else none

/-- The value of a decimal fraction with an optional power of ten. -/
def decimal? (negative : Bool) (text : List Char) : Option Binary64 :=
  let (whole, wholeCount, behind) := takeDigits text
  let (fraction, fractionCount, rest) := match behind with
    | '.' :: digits => takeDigits digits
    | other => (0, 0, other)
  if wholeCount + fractionCount = 0 then none
  else do
    let exponent ← exponent? rest
    finite? negative (whole * Nat.pow 10 fractionCount + fraction) (exponent - fractionCount)

/-- The value of a word or literal for a floating point number. -/
def float? (text : List Char) : Option Binary64 :=
  let word := String.ofList (match text with | '+' :: rest => rest | other => other)
  if [".inf", ".Inf", ".INF"].contains word then some ⟨0x7ff0000000000000⟩
  else if ["-.inf", "-.Inf", "-.INF"].contains (String.ofList text) then
    some ⟨0xfff0000000000000⟩
  else if [".nan", ".NaN", ".NAN"].contains (String.ofList text) then
    some ⟨0x7ff8000000000000⟩
  else if isZeroPadded text then none
  else
    match text with
    | '-' :: rest => decimal? true rest
    | '+' :: rest => decimal? false rest
    | rest => decimal? false rest

/-- True for an integer with a minus sign that fits a signed word with some bits, or one
without that fits an unsigned one. -/
def fitsBits (bits : Nat) : Whole → Bool
  | .natural value => value < Nat.pow 2 bits
  | .minus magnitude => magnitude ≤ Nat.pow 2 (bits - 1)
  | _ => false

/-- What an unquoted scalar looks like. -/
def plain? (text : String) : Option Whole :=
  let asFloatOrText := match float? text.toList with
    | some number => Whole.float number
    | none => Whole.text text
  if nothingWords.contains text then some .nothing
  else
    match truth? text, integer? text.toList with
    | some value, _ => some (.truth value)
    | none, some value =>
      if fitsBits 64 value then some value
      else if fitsBits 128 value then none
      else some asFloatOrText
    | none, none => some asFloatOrText

/-! ## Values -/

/-- An unquoted scalar without text, which stands where no value is written. -/
def blank : Yaml := .scalar "" false

/-- The text of a scalar. -/
def text? : Yaml → Option String
  | .scalar text _ => some text
  | _ => none

/-- True for an unquoted scalar without text. -/
def isBlank : Yaml → Bool
  | .scalar "" false => true
  | _ => false

mutual

/-- A value as a whole, unless something inside it is unreadable. -/
def whole? : Yaml → Option Whole
  | .scalar text true => some (.text text)
  | .scalar text false => plain? text
  | .sequence elements => (wholeElements? elements).map Whole.list
  | .mapping entries => (wholeEntries? entries).map Whole.mapping
  | .unreadable => none

/-- The elements of a sequence as a whole. -/
def wholeElements? : List Yaml → Option (List Whole)
  | [] => some []
  | element :: rest => do
    let first ← whole? element
    let others ← wholeElements? rest
    some (first :: others)

/-- The entries of a mapping as a whole. -/
def wholeEntries? : List (Yaml × Yaml) → Option (List (Whole × Whole))
  | [] => some []
  | (key, value) :: rest => do
    let first ← whole? key
    let second ← whole? value
    let others ← wholeEntries? rest
    some ((first, second) :: others)

end

/-- An entry of a mapping as a member of a structure. The text of its key is the name,
whatever it looks like. -/
def member? (entry : Yaml × Yaml) : Option (FieldKey × Yaml) :=
  (text? entry.1).map fun name => (.name name, entry.2)

instance : Source Yaml where
  text? := text?
  natural? value := match value with
    | .scalar text false => natural? text.toList
    | _ => none
  isNothing value := match value with
    | .scalar text false => nothingWords.contains text
    | _ => false
  elements? value := match value with
    | .sequence elements => some elements
    | other => if isBlank other then some [] else none
  members? value := match value with
    | .mapping entries => entries.mapM member?
    | other => if isBlank other then some [] else none
  whole? := whole?

end Yaml

end Syndication
