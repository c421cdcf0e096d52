import Syndication.Product.Json
import Syndication.View.Basic

/-!
# Views as JSON

A view is written and read with every field; nothing in it has a default. Texts by
code are an object whose member names are the codes, so the order of its members
carries no meaning, and of two members with one name the later counts.
-/

namespace Syndication

namespace PluHashes

/-- Texts by code as JSON, in the order of the codes. -/
def toJson (hashes : PluHashes) : Json :=
  .obj (hashes.toList.map fun entry => (entry.1, .str entry.2))

/-- A member of an object of texts. -/
def textMember? (entry : String × Json) : Option (String × String) :=
  entry.2.text?.map fun text => (entry.1, text)

/-- Texts by code from a list of entries, the last entry for a code being kept. -/
def ofEntries (entries : List (String × String)) : PluHashes :=
  entries.foldl (fun hashes entry => hashes.insert entry.1 entry.2) ∅

/-- The texts by code that a JSON object holds. -/
def ofJson? (value : Json) : Option PluHashes := do
  let members ← value.members?
  let entries ← members.mapM textMember?
  some (ofEntries entries)

end PluHashes

namespace ViewVariant

/-- A row of a view as JSON. -/
def toJson (row : ViewVariant) : Json :=
  .obj [("group_id", .int row.groupId.toInt), ("option_id", .int row.optionId.toInt),
    ("item_id", .int row.itemId.toInt), ("variant_id", .int row.variantId.toInt),
    ("name", .str row.name), ("product_option_type_code", row.type.toJson),
    ("refundable", .bool row.refundable), ("approved", .bool row.approved)]

/-- The names of the fields of a row, in order. -/
def fieldNames : List String :=
  ["group_id", "option_id", "item_id", "variant_id", "name", "product_option_type_code",
    "refundable", "approved"]

/-- The row that a JSON value describes. -/
def ofJson? (value : Json) : Option ViewVariant := do
  let fields ← Fields.read? fieldNames value
  let groupId ← fields.required "group_id" Json.int64?
  let optionId ← fields.required "option_id" Json.int64?
  let itemId ← fields.required "item_id" Json.int64?
  let variantId ← fields.required "variant_id" Json.int64?
  let name ← fields.required "name" Json.text?
  let type ← fields.required "product_option_type_code" OptionType.ofJson?
  let refundable ← fields.required "refundable" Json.bool?
  let approved ← fields.required "approved" Json.bool?
  some ⟨groupId, optionId, itemId, variantId, name, type, refundable, approved⟩

end ViewVariant

namespace PluDetail

/-- The units of an option as JSON. -/
def toJson (detail : PluDetail) : Json :=
  .obj [("option_id", .int detail.optionId.toInt),
    ("product_option_type_code", detail.type.toJson),
    ("plus", .arr (detail.plus.map Json.str)), ("plu_hash", PluHashes.toJson detail.hashes)]

/-- The units of an option that a JSON value describes. -/
def ofJson? (value : Json) : Option PluDetail := do
  let fields ← Fields.read? ["option_id", "product_option_type_code", "plus", "plu_hash"] value
  let optionId ← fields.required "option_id" Json.int64?
  let type ← fields.required "product_option_type_code" OptionType.ofJson?
  let plus ← fields.required "plus" (Source.listOf? Json.text?)
  let hashes ← fields.required "plu_hash" PluHashes.ofJson?
  some ⟨optionId, type, plus, hashes⟩

end PluDetail

namespace ProductView

/-- A view as JSON. -/
def toJson (view : ProductView) : Json :=
  .obj [("product_id", .int view.productId.toInt), ("product_version", .int view.version.toInt),
    ("title", .str view.title), ("variants", .arr (view.variants.map ViewVariant.toJson)),
    ("plu_details", .arr (view.details.map PluDetail.toJson))]

/-- The view that a JSON value describes. -/
def ofJson? (value : Json) : Option ProductView := do
  let fields ←
    Fields.read? ["product_id", "product_version", "title", "variants", "plu_details"] value
  let productId ← fields.required "product_id" Json.int64?
  let version ← fields.required "product_version" Json.int32?
  let title ← fields.required "title" Json.text?
  let variants ← fields.required "variants" (Source.listOf? ViewVariant.ofJson?)
  let details ← fields.required "plu_details" (Source.listOf? PluDetail.ofJson?)
  some ⟨productId, version, title, variants, details⟩

end ProductView

end Syndication
