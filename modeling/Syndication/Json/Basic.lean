import Syndication.Number.Binary64

/-!
# JSON values

Numbers are integers or 64-bit floating point numbers, and the two never mix: `1`
is an integer and `1.0` is not. Members of an object stay in the order in which
they were given, and a name given twice occurs twice; whether that is an error is
for the reader of the value to say, since only the names it knows matter.

A well-formed number outside the range of both kinds, a string with an unpaired
surrogate escape, an object with such a name, and a collection inside too many others
have no value here. They may still stand where nobody looks at them, so each is kept as
`unreadable` and refused only on use.
-/

namespace Syndication

/-- A JSON value. -/
inductive Json where
  | null
  | bool (value : Bool)
  | int (value : Int)
  | float (value : Binary64)
  | str (value : String)
  | arr (elements : List Json)
  | obj (members : List (String × Json))
  | unreadable
  deriving Inhabited, Repr

namespace Json

/-- A natural number as a JSON integer. -/
def ofNat (value : Nat) : Json := .int value

/-- A floating point number as JSON. Infinities and NaN have no literal and become `null`. -/
def ofFloat (value : Binary64) : Json := if value.isFinite then .float value else .null

/-- A text, or `null` where there is none. -/
def ofText? (value : Option String) : Json :=
  match value with
  | some text => .str text
  | none => .null

/-- True for `null` alone. -/
def isNull : Json → Bool
  | .null => true
  | _ => false

/-- The truth value that a JSON value is. -/
def bool? : Json → Option Bool
  | .bool value => some value
  | _ => none

/-- The integer that a JSON value is. A float is not an integer, whatever its value. -/
def int? : Json → Option Int
  | .int value => some value
  | _ => none

/-- The number that a JSON value is, an integer being rounded to the nearest one. -/
def float? : Json → Option Binary64
  | .int value => some (Binary64.ofInt value)
  | .float value => some value
  | _ => none

/-- The text that a JSON value is. -/
def text? : Json → Option String
  | .str value => some value
  | _ => none

/-- The elements of an array. -/
def elements? : Json → Option (List Json)
  | .arr elements => some elements
  | _ => none

/-- The members of an object, in the order given. -/
def members? : Json → Option (List (String × Json))
  | .obj members => some members
  | _ => none

/-- The value last given for a name, or `null` where the name is missing. -/
def field (value : Json) (name : String) : Json :=
  match value with
  | .obj members => ((members.reverse.find? fun member => member.1 == name).map (·.2)).getD .null
  | _ => .null

/-- True when the value of a name is given at all. -/
def hasField (value : Json) (name : String) : Bool :=
  match value with
  | .obj members => members.any fun member => member.1 == name
  | _ => false

end Json

end Syndication
