import Syndication.Product.Basic

/-!
# Images to be processed

Every image of a product, its own first and then those of its variants in walking
order, is handed to the external image processor once. An image is identified by
the product, its address and its role; the identifier that the processor assigns is
not part of what identifies it.
-/

namespace Syndication

/-- An image handed to the external image processor, which assigns an identifier once it
has imported the image. -/
structure ImageRecord where
  productId : Int64
  url : String
  typeCode : String
  tripImageId : Option String
  deriving DecidableEq, Repr

/-- What identifies a queued image. -/
def ImageRecord.key (record : ImageRecord) : Int64 × String × String :=
  (record.productId, record.url, record.typeCode)

/-- True for the images of a product at an address, whatever their role. -/
def ImageRecord.isAt (record : ImageRecord) (id : Int64) (url : String) : Bool :=
  record.productId == id && record.url == url

/-- Every image of a product and its variants, the first occurrence of each, in order. -/
def Product.imageRecords (product : Product) : List ImageRecord :=
  (product.images ++ product.variants.flatMap fun placed => placed.variant.images).eraseDups.map
    fun image => ⟨product.id, image.url, image.typeCode, none⟩

end Syndication
