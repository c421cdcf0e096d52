import Syndication.Document.Source
import Syndication.Product.Basic

/-!
# Products as JSON

A product is written with every field, in the order of its type; a missing sub
category is `null`. It is read back by the same names, and fields that a catalog may
leave out have the defaults given here: no options, items, variants, departures,
slots, facilities or images, neither refundable nor approved, and a status that is
still pending.

The status is an object whose `state` names it; only a product that waits to be
published again has a further field.
-/

namespace Syndication

namespace Stage

/-- A stage as JSON. -/
def toJson (stage : Stage) : Json := .str stage.name

/-- The stage that a JSON value names. -/
def ofJson? (value : Json) : Option Stage := value.name?.bind ofName?

end Stage

namespace SyncStatus

/-- A status as JSON. -/
def toJson : SyncStatus → Json
  | .pending => .obj [("state", .str "pending")]
  | .viewReady => .obj [("state", .str "view_ready")]
  | .imageReady => .obj [("state", .str "image_ready")]
  | .contentSynced => .obj [("state", .str "content_synced")]
  | .needsResync version =>
    .obj [("state", .str "needs_resync"), ("previous_version", .int version.toInt)]

/-- The status of a kind without fields, given what accompanies the kind. -/
def plain? (status : SyncStatus) (rest : Whole) : Option SyncStatus :=
  if rest.holdsNoFields then some status else none

/-- The status that a JSON value describes. -/
def ofJson? (value : Json) : Option SyncStatus := do
  let (kind, rest) ← (← value.whole?).kind? "state"
  if kind = "pending" then plain? .pending rest
  else if kind = "view_ready" then plain? .viewReady rest
  else if kind = "image_ready" then plain? .imageReady rest
  else if kind = "content_synced" then plain? .contentSynced rest
  else if kind = "needs_resync" then do
    let fields ← Fields.read? ["previous_version"] rest
    let version ← fields.required "previous_version" Whole.int32?
    some (.needsResync version)
  else none

end SyncStatus

namespace OptionType

/-- An option type as JSON. -/
def toJson (type : OptionType) : Json := .str type.code

/-- The option type that a JSON value names. -/
def ofJson? (value : Json) : Option OptionType := value.name?.bind ofCode?

end OptionType

namespace CategoryFilter

/-- A category as JSON. -/
def toJson (filter : CategoryFilter) : Json :=
  .obj [("category_code", .str filter.category),
    ("sub_category_code", Json.ofText? filter.subCategory)]

/-- The category that a JSON value describes. -/
def ofJson? (value : Json) : Option CategoryFilter := do
  let fields ← Fields.read? ["category_code", "sub_category_code"] value
  let category ← fields.required "category_code" Json.text?
  let subCategory ← fields.optional "sub_category_code" Json.text?
  some ⟨category, subCategory⟩

end CategoryFilter

namespace ProductImage

/-- An image as JSON. -/
def toJson (image : ProductImage) : Json :=
  .obj [("url", .str image.url), ("image_type_code", .str image.typeCode)]

/-- The image that a JSON value describes. -/
def ofJson? (value : Json) : Option ProductImage := do
  let fields ← Fields.read? ["url", "image_type_code"] value
  let url ← fields.required "url" Json.text?
  let typeCode ← fields.required "image_type_code" Json.text?
  some ⟨url, typeCode⟩

end ProductImage

namespace Facility

/-- A facility as JSON. -/
def toJson (facility : Facility) : Json :=
  .obj [("name", .str facility.name), ("latitude", Json.ofFloat facility.latitude),
    ("longitude", Json.ofFloat facility.longitude)]

/-- The facility that a JSON value describes. -/
def ofJson? (value : Json) : Option Facility := do
  let fields ← Fields.read? ["name", "latitude", "longitude"] value
  let name ← fields.required "name" Json.text?
  let latitude ← fields.required "latitude" Json.float?
  let longitude ← fields.required "longitude" Json.float?
  some ⟨name, latitude, longitude⟩

end Facility

namespace Variant

/-- A variant as JSON. -/
def toJson (variant : Variant) : Json :=
  .obj [("variant_id", .int variant.id.toInt), ("name", .str variant.name),
    ("refundable", .bool variant.refundable), ("approved", .bool variant.approved),
    ("images", .arr (variant.images.map ProductImage.toJson))]

/-- The variant that a JSON value describes. -/
def ofJson? (value : Json) : Option Variant := do
  let fields ← Fields.read? ["variant_id", "name", "refundable", "approved", "images"] value
  let id ← fields.required "variant_id" Json.int64?
  let name ← fields.required "name" Json.text?
  let refundable ← fields.defaulted "refundable" false Json.bool?
  let approved ← fields.defaulted "approved" false Json.bool?
  let images ← fields.defaulted "images" [] (Source.listOf? ProductImage.ofJson?)
  some ⟨id, name, refundable, approved, images⟩

end Variant

namespace OptionItem

/-- An item as JSON. -/
def toJson (item : OptionItem) : Json :=
  .obj [("item_id", .int item.id.toInt), ("name", .str item.name),
    ("variants", .arr (item.variants.map Variant.toJson)),
    ("schedules", .arr (item.schedules.map Json.str)),
    ("rounds", .arr (item.rounds.map Json.str))]

/-- The item that a JSON value describes. -/
def ofJson? (value : Json) : Option OptionItem := do
  let fields ← Fields.read? ["item_id", "name", "variants", "schedules", "rounds"] value
  let id ← fields.required "item_id" Json.int64?
  let name ← fields.required "name" Json.text?
  let variants ← fields.defaulted "variants" [] (Source.listOf? Variant.ofJson?)
  let schedules ← fields.defaulted "schedules" [] (Source.listOf? Json.text?)
  let rounds ← fields.defaulted "rounds" [] (Source.listOf? Json.text?)
  some ⟨id, name, variants, schedules, rounds⟩

end OptionItem

namespace ProductOption

/-- An option as JSON. -/
def toJson (option : ProductOption) : Json :=
  .obj [("option_id", .int option.id.toInt), ("name", .str option.name),
    ("product_option_type_code", option.type.toJson),
    ("items", .arr (option.items.map OptionItem.toJson))]

/-- The option that a JSON value describes. -/
def ofJson? (value : Json) : Option ProductOption := do
  let fields ← Fields.read? ["option_id", "name", "product_option_type_code", "items"] value
  let id ← fields.required "option_id" Json.int64?
  let name ← fields.required "name" Json.text?
  let type ← fields.required "product_option_type_code" OptionType.ofJson?
  let items ← fields.defaulted "items" [] (Source.listOf? OptionItem.ofJson?)
  some ⟨id, name, type, items⟩

end ProductOption

namespace OptionGroup

/-- A group of options as JSON. -/
def toJson (group : OptionGroup) : Json :=
  .obj [("group_id", .int group.id.toInt), ("name", .str group.name),
    ("options", .arr (group.options.map ProductOption.toJson))]

/-- The group of options that a JSON value describes. -/
def ofJson? (value : Json) : Option OptionGroup := do
  let fields ← Fields.read? ["group_id", "name", "options"] value
  let id ← fields.required "group_id" Json.int64?
  let name ← fields.required "name" Json.text?
  let options ← fields.defaulted "options" [] (Source.listOf? ProductOption.ofJson?)
  some ⟨id, name, options⟩

end OptionGroup

namespace Product

/-- A product as JSON. -/
def toJson (product : Product) : Json :=
  .obj [("product_id", .int product.id.toInt), ("product_version", .int product.version.toInt),
    ("title", .str product.title),
    ("category_codes", .arr (product.categories.map CategoryFilter.toJson)),
    ("option_groups", .arr (product.groups.map OptionGroup.toJson)),
    ("facilities", .arr (product.facilities.map Facility.toJson)),
    ("images", .arr (product.images.map ProductImage.toJson)),
    ("status", product.status.toJson)]

/-- The names of the fields of a product, in order. -/
def fieldNames : List String :=
  ["product_id", "product_version", "title", "category_codes", "option_groups", "facilities",
    "images", "status"]

/-- The product that a JSON value describes. -/
def ofJson? (value : Json) : Option Product := do
  let fields ← Fields.read? fieldNames value
  let id ← fields.required "product_id" Json.int64?
  let version ← fields.required "product_version" Json.int32?
  let title ← fields.required "title" Json.text?
  let categories ←
    fields.defaulted "category_codes" [] (Source.listOf? CategoryFilter.ofJson?)
  let groups ← fields.defaulted "option_groups" [] (Source.listOf? OptionGroup.ofJson?)
  let facilities ← fields.defaulted "facilities" [] (Source.listOf? Facility.ofJson?)
  let images ← fields.defaulted "images" [] (Source.listOf? ProductImage.ofJson?)
  let status ← fields.defaulted "status" .pending SyncStatus.ofJson?
  some ⟨id, version, title, categories, groups, facilities, images, status⟩

end Product

end Syndication
