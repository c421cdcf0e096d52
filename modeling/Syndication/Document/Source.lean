import Syndication.Document.Whole
import Syndication.Json.Basic

/-!
# Reading structures from documents

A document format offers its values through `Source`: what a value says when a
text, a natural number, a list or a named structure is asked of it. A structure is
given by members or, in the order of its fields, by a list. The key of a member is the
name of a field or its place among the fields. Keys that the structure does not have
are skipped; a field that it has may be given only once.

`Fields` is what remains after these rules have been checked. A field is then
required, has a default for when it is missing, or is optional, in which case an
explicit null also stands for nothing.
-/

namespace Syndication

/-- What tells which field of a structure a member gives: the name of the field, or its
place among the fields. -/
inductive FieldKey where
  | name (text : String)
  | place (index : Nat)
  deriving DecidableEq, Repr

/-- The one of the names of all fields that a key stands for. -/
def FieldKey.nameAmong? (names : List String) : FieldKey → Option String
  | .name text => if names.contains text then some text else none
  | .place index => names[index]?

/-- A format whose values can be asked what they are. -/
class Source (δ : Type) where
  /-- The value as a text. -/
  text? : δ → Option String
  /-- The value as a natural number. -/
  natural? : δ → Option Nat
  /-- True when the value says that there is nothing. -/
  isNothing : δ → Bool
  /-- The value as a list. -/
  elements? : δ → Option (List δ)
  /-- The value as the members of a structure, in the order given. -/
  members? : δ → Option (List (FieldKey × δ))
  /-- The value as a whole, read without knowing what will be asked of it. -/
  whole? : δ → Option Whole

namespace Whole

/-- The key of a field that a value is: a name, or a place without a sign. -/
def fieldKey? : Whole → Option FieldKey
  | .text name => some (.name name)
  | .natural index => some (.place index)
  | _ => none

/-- An entry of a mapping as a member of a structure. -/
def member? (entry : Whole × Whole) : Option (FieldKey × Whole) :=
  entry.1.fieldKey?.map fun key => (key, entry.2)

end Whole

instance : Source Whole where
  text? := Whole.text?
  natural? := Whole.natural?
  isNothing := Whole.isNothing
  elements? := Whole.elements?
  members? value := value.entries?.bind fun entries => entries.mapM Whole.member?
  whole? := some

namespace Json

mutual

/-- A value as a whole, unless something inside it is unreadable. -/
def whole? : Json → Option Whole
  | .null => some .nothing
  | .bool value => some (.truth value)
  | .int value => some (.ofInt value)
  | .float value => some (.float value)
  | .str value => some (.text value)
  | .arr elements => (wholeElements? elements).map Whole.list
  | .obj members => (wholeMembers? members).map Whole.mapping
  | .unreadable => none

/-- The elements of an array as a whole. -/
def wholeElements? : List Json → Option (List Whole)
  | [] => some []
  | element :: rest => do
    let first ← whole? element
    let others ← wholeElements? rest
    some (first :: others)

/-- The members of an object as a whole. -/
def wholeMembers? : List (String × Json) → Option (List (Whole × Whole))
  | [] => some []
  | (name, value) :: rest => do
    let first ← whole? value
    let others ← wholeMembers? rest
    some ((.text name, first) :: others)

end

end Json

instance : Source Json where
  text? := Json.text?
  natural? value := value.int?.bind fun number =>
    if 0 ≤ number then some number.toNat else none
  isNothing := Json.isNull
  elements? := Json.elements?
  members? value := value.members?.map fun members =>
    members.map fun member => (.name member.1, member.2)
  whole? := Json.whole?

/-- The fields of a structure that were given, each name at most once. -/
structure Fields (δ : Type) where
  given : List (String × δ)

namespace Fields

variable {δ α : Type}

/-- The fields with some names that members give. -/
def ofMembers? (names : List String) (members : List (FieldKey × δ)) : Option (Fields δ) :=
  let known := members.filterMap fun member =>
    (member.1.nameAmong? names).map fun name => (name, member.2)
  if (known.map (·.1)).Nodup then some ⟨known⟩ else none

/-- Reads a structure with the named fields. A list gives them by position: at least
`least` of them, and no more than there are. -/
def readAtLeast? [Source δ] (least : Nat) (names : List String) (value : δ) :
    Option (Fields δ) :=
  match Source.members? value with
  | some members => ofMembers? names members
  | none =>
    match Source.elements? value with
    | some elements =>
      if least ≤ elements.length ∧ elements.length ≤ names.length then
        some ⟨names.zip elements⟩
      else none
    | none => none

/-- Reads a structure with the named fields, of which a list may give any number. -/
def read? [Source δ] (names : List String) (value : δ) : Option (Fields δ) :=
  readAtLeast? 0 names value

/-- The value given for a name. -/
def value? (fields : Fields δ) (name : String) : Option δ :=
  (fields.given.find? fun field => field.1 == name).map (·.2)

/-- A field that has to be given. -/
def required (fields : Fields δ) (name : String) (decode : δ → Option α) : Option α :=
  (fields.value? name).bind decode

/-- A field with a value of its own for when it is not given. -/
def defaulted (fields : Fields δ) (name : String) (fallback : α) (decode : δ → Option α) :
    Option α :=
  match fields.value? name with
  | some value => decode value
  | none => some fallback

/-- A field that may be missing or hold nothing. -/
def optional [Source δ] (fields : Fields δ) (name : String) (decode : δ → Option α) :
    Option (Option α) :=
  match fields.value? name with
  | some value => if Source.isNothing value then some none else (decode value).map some
  | none => some none

end Fields

namespace Source

variable {δ : Type} [Source δ]

/-- A list all of whose elements decode. -/
def listOf? {α : Type} (decode : δ → Option α) (value : δ) : Option (List α) :=
  (elements? value).bind fun elements => elements.mapM decode

/-- A natural number up to a bound. -/
def bounded? (limit : Nat) (value : δ) : Option Nat :=
  (natural? value).bind fun number => if number ≤ limit then some number else none

end Source

namespace Json

/-- A signed 64-bit integer. -/
def int64? (value : Json) : Option Int64 := value.int?.bind Text.int64?

/-- A signed 32-bit integer. -/
def int32? (value : Json) : Option Int32 := value.int?.bind Text.int32?

/-- The name of a value that is one of several names. It is written as a text, or as an
object whose only member has that name and holds `null`. -/
def name? : Json → Option String
  | .str name => some name
  | .obj [(name, .null)] => some name
  | _ => none

end Json

end Syndication
