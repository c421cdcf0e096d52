import Syndication.Document.Source
import Syndication.Image.Basic

/-!
# Queued images as JSON

A record is written with every field, `null` standing for an identifier that has
not been assigned. The identifier may be left out when a record is read.
-/

namespace Syndication.ImageRecord

/-- A queued image as JSON. -/
def toJson (record : ImageRecord) : Json :=
  .obj [("product_id", .int record.productId.toInt), ("url", .str record.url),
    ("image_type_code", .str record.typeCode),
    ("trip_image_id", Json.ofText? record.tripImageId)]

/-- The queued image that a JSON value describes. -/
def ofJson? (value : Json) : Option ImageRecord := do
  let fields ← Fields.read? ["product_id", "url", "image_type_code", "trip_image_id"] value
  let productId ← fields.required "product_id" Json.int64?
  let url ← fields.required "url" Json.text?
  let typeCode ← fields.required "image_type_code" Json.text?
  let tripImageId ← fields.optional "trip_image_id" Json.text?
  some ⟨productId, url, typeCode, tripImageId⟩

end Syndication.ImageRecord
