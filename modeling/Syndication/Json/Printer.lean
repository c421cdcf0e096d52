import Syndication.Json.Basic
import Syndication.Number.Shortest

/-!
# Writing JSON text

Values are written compactly: no blanks, members in the order held, and in strings
only quotes, backslashes and controls escaped. A float has the shortest digits
that read back and always shows that it is one, by a point or an exponent; a value
that is not a finite number is written as `null`, as is an unreadable token.

Floats stand in positional notation while their decimal point falls within sixteen
digits on the left or four leading zeros on the right, and in scientific notation
with at most one digit before the point otherwise.
-/

namespace Syndication.Json

/-- The escape of one character of a string, or the character itself. -/
def escapedCharacter (character : Char) : List Char :=
  if character = '\x22' ∨ character = '\\' then ['\\', character]
  else if character = '\x08' then ['\\', 'b']
  else if character = '\x0c' then ['\\', 'f']
  else if character = '\n' then ['\\', 'n']
  else if character = '\r' then ['\\', 'r']
  else if character = '\t' then ['\\', 't']
  else if character.toNat < 0x20 then
    ['\\', 'u', '0', '0'] ++
      (if character.toNat < 0x10 then ['0'] else []) ++ Nat.toDigits 16 character.toNat
  else [character]

/-- A string between quotes. -/
def stringText (text : String) : String :=
  String.ofList (['\x22'] ++ text.toList.flatMap escapedCharacter ++ ['\x22'])

/-- The digits and exponent of a float as JSON writes them: `point` is the number of digits
before the decimal point. -/
def decimalText (decimal : ShortDecimal) : List Char :=
  let digits := decimal.text
  let point := (digits.length : Int) + decimal.exponent
  if 0 ≤ decimal.exponent ∧ point ≤ 16 then Binary64.positional decimal ++ ['.', '0']
  else if -5 < point ∧ point ≤ 16 then Binary64.positional decimal
  else
    let exponent := (toString (point - 1)).toList
    match digits with
    | [digit] => digit :: 'e' :: exponent
    | digit :: rest => digit :: '.' :: rest ++ 'e' :: exponent
    | [] => []

/-- The text of a float. -/
def floatText (number : Binary64) : String :=
  if number.isFinite then
    let magnitude := decimalText (number.shortest .even)
    String.ofList (if number.isNegative then '-' :: magnitude else magnitude)
  else "null"

mutual

/-- The compact text of a value. -/
def render : Json → String
  | .null => "null"
  | .bool true => "true"
  | .bool false => "false"
  | .int value => toString value
  | .float value => floatText value
  | .str value => stringText value
  | .arr elements => "[" ++ renderElements elements ++ "]"
  | .obj members => "\x7b" ++ renderMembers members ++ "\x7d"
  | .unreadable => "null"

/-- Elements separated by commas. -/
def renderElements : List Json → String
  | [] => ""
  | [element] => render element
  | element :: rest => render element ++ "," ++ renderElements rest

/-- Named members separated by commas. -/
def renderMembers : List (String × Json) → String
  | [] => ""
  | [(name, value)] => stringText name ++ ":" ++ render value
  | (name, value) :: rest =>
    stringText name ++ ":" ++ render value ++ "," ++ renderMembers rest

end

end Syndication.Json
