import Syndication.Text.Integer
import Syndication.Text.Quoted

/-!
# Price look-up texts

A sellable unit is named by its canonical PLU text: the product, its version, the
variant, the departure and the time slot, separated by bars. A departure or slot
that the unit does not have is an empty segment. Segments must not contain the bar,
so the five parts can be read back from the text.

Reading checks the number of segments first, then the version, the product and the
variant; the last two segments are taken as they are.
-/

namespace Syndication

/-- The character between segments. -/
def pluDelimiter : Char := '|'

/-- A sellable unit of a product. -/
structure Plu where
  productId : Int64
  version : Int32
  variantId : Int64
  schedule : String
  round : String
  deriving DecidableEq, Repr, Inhabited

/-- The numeric segments of a PLU text. -/
inductive PluField where
  | productId
  | version
  | variantId
  deriving DecidableEq, Repr

/-- The name of a segment in messages. -/
def PluField.name : PluField → String
  | .productId => "product_id"
  | .version => "product_version"
  | .variantId => "variant_id"

/-- Why a PLU text is refused, or cannot be formed. -/
inductive PluError where
  | segmentCount (found : Nat)
  | invalidNumber (field : PluField) (text : String)
  | delimiterInSegment (segment : String)
  deriving DecidableEq, Repr

/-- The message of a PLU error. -/
def PluError.message : PluError → String
  | .segmentCount found => "expected 5 segments, found " ++ toString found
  | .invalidNumber field text => "invalid " ++ field.name ++ ": " ++ Text.quoted text
  | .delimiterInSegment segment =>
    "segment " ++ Text.quoted segment ++ " contains the PLU delimiter"

namespace Plu

/-- True when a text contains the delimiter. -/
def hasDelimiter (segment : String) : Bool := segment.toList.contains pluDelimiter

/-- A sellable unit from its parts. The departure is checked before the time slot. -/
def make (productId : Int64) (version : Int32) (variantId : Int64) (schedule round : String) :
    Except PluError Plu :=
  if hasDelimiter schedule then .error (.delimiterInSegment schedule)
  else if hasDelimiter round then .error (.delimiterInSegment round)
  else .ok ⟨productId, version, variantId, schedule, round⟩

/-- The canonical text of a unit. -/
def text (plu : Plu) : String :=
  toString plu.productId.toInt ++ "|" ++ toString plu.version.toInt ++ "|" ++
    toString plu.variantId.toInt ++ "|" ++ plu.schedule ++ "|" ++ plu.round

/-- The segments of a text. -/
def segments (text : String) : List String :=
  (text.toList.splitOn pluDelimiter).map String.ofList

/-- A numeric segment as a 64-bit integer. -/
def number (field : PluField) (segment : String) : Except PluError Int64 :=
  match Text.readInt64? segment with
  | some value => .ok value
  | none => .error (.invalidNumber field segment)

/-- The version segment: an integer that also fits 32 bits. -/
def versionNumber (segment : String) : Except PluError Int32 :=
  match (Text.readInt64? segment).bind fun value => Text.int32? value.toInt with
  | some value => .ok value
  | none => .error (.invalidNumber .version segment)

/-- The unit that a text names. -/
def read (text : String) : Except PluError Plu :=
  match segments text with
  | [productSegment, versionSegment, variantSegment, schedule, round] => do
    let version ← versionNumber versionSegment
    let productId ← number .productId productSegment
    let variantId ← number .variantId variantSegment
    .ok ⟨productId, version, variantId, schedule, round⟩
  | found => .error (.segmentCount found.length)

end Plu

end Syndication
