import Syndication.Content.Basic
import Syndication.Document.Source

/-!
# Syndicated content as JSON

Both parts of a payload are written with every field, except that a unit without
departure or time slot leaves that field out. Reading accepts a missing field or
`null` for the two, when a unit is given by names; given by position, both have to
be there.
-/

namespace Syndication

namespace CancellationPolicy

/-- A cancellation policy as JSON. -/
def toJson (policy : CancellationPolicy) : Json := .str policy.code

/-- The cancellation policy that a JSON value names. -/
def ofJson? (value : Json) : Option CancellationPolicy := value.name?.bind ofCode?

end CancellationPolicy

namespace PointOfInterest

/-- A point of interest as JSON. -/
def toJson (point : PointOfInterest) : Json :=
  .obj [("name", .str point.name), ("latitude", Json.ofFloat point.latitude),
    ("longitude", Json.ofFloat point.longitude), ("place_id", .str point.placeId)]

/-- The point of interest that a JSON value describes. -/
def ofJson? (value : Json) : Option PointOfInterest := do
  let fields ← Fields.read? ["name", "latitude", "longitude", "place_id"] value
  let name ← fields.required "name" Json.text?
  let latitude ← fields.required "latitude" Json.float?
  let longitude ← fields.required "longitude" Json.float?
  let placeId ← fields.required "place_id" Json.text?
  some ⟨name, latitude, longitude, placeId⟩

end PointOfInterest

namespace ProductContent

/-- What a partner is told about a product, as JSON. -/
def toJson (content : ProductContent) : Json :=
  .obj [("product_id", .int content.productId.toInt),
    ("product_version", .int content.version.toInt), ("title", .str content.title),
    ("categories", .arr (content.categories.map Json.str)),
    ("points_of_interest", .arr (content.pointsOfInterest.map PointOfInterest.toJson)),
    ("cancellation_policy", content.policy.toJson),
    ("image_ids", .arr (content.imageIds.map Json.str))]

/-- The names of the fields, in order. -/
def fieldNames : List String :=
  ["product_id", "product_version", "title", "categories", "points_of_interest",
    "cancellation_policy", "image_ids"]

/-- What a partner is told about a product, from the JSON value that describes it. -/
def ofJson? (value : Json) : Option ProductContent := do
  let fields ← Fields.read? fieldNames value
  let productId ← fields.required "product_id" Json.int64?
  let version ← fields.required "product_version" Json.int32?
  let title ← fields.required "title" Json.text?
  let categories ← fields.required "categories" (Source.listOf? Json.text?)
  let points ← fields.required "points_of_interest" (Source.listOf? PointOfInterest.ofJson?)
  let policy ← fields.required "cancellation_policy" CancellationPolicy.ofJson?
  let imageIds ← fields.required "image_ids" (Source.listOf? Json.text?)
  some ⟨productId, version, title, categories, points, policy, imageIds⟩

end ProductContent

namespace PackageUnit

/-- The member for a text that may be missing. -/
def optionalMember (name : String) : Option String → List (String × Json)
  | some text => [(name, .str text)]
  | none => []

/-- A sellable unit as JSON. -/
def toJson (unit : PackageUnit) : Json :=
  .obj ([("plu_hash", .str unit.code), ("plu", .str unit.plu),
    ("variant_id", .int unit.variantId.toInt), ("variant_name", .str unit.variantName)] ++
    optionalMember "schedule" unit.schedule ++ optionalMember "round" unit.round)

/-- The names of the fields of a unit, in order. -/
def fieldNames : List String :=
  ["plu_hash", "plu", "variant_id", "variant_name", "schedule", "round"]

/-- The sellable unit that a JSON value describes. -/
def ofJson? (value : Json) : Option PackageUnit := do
  let fields ← Fields.readAtLeast? 6 fieldNames value
  let code ← fields.required "plu_hash" Json.text?
  let plu ← fields.required "plu" Json.text?
  let variantId ← fields.required "variant_id" Json.int64?
  let variantName ← fields.required "variant_name" Json.text?
  let schedule ← fields.optional "schedule" Json.text?
  let round ← fields.optional "round" Json.text?
  some ⟨code, plu, variantId, variantName, schedule, round⟩

end PackageUnit

namespace PackageContent

/-- The sellable units of a product as JSON. -/
def toJson (content : PackageContent) : Json :=
  .obj [("product_id", .int content.productId.toInt),
    ("units", .arr (content.units.map PackageUnit.toJson))]

/-- The sellable units of a product, from the JSON value that describes them. -/
def ofJson? (value : Json) : Option PackageContent := do
  let fields ← Fields.read? ["product_id", "units"] value
  let productId ← fields.required "product_id" Json.int64?
  let units ← fields.required "units" (Source.listOf? PackageUnit.ofJson?)
  some ⟨productId, units⟩

end PackageContent

end Syndication
