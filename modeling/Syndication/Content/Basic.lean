import Syndication.Product.Basic

/-!
# What is syndicated for a product

The payload has two parts: what a partner is told about the product, and the list of
its sellable units. A unit without departure or time slot has none rather than an
empty text.
-/

namespace Syndication

/-- Whether a booking can be cancelled free of charge. -/
inductive CancellationPolicy where
  | freeCancel
  | nonCancellable
  deriving DecidableEq, Repr, Inhabited

/-- The code of a cancellation policy. -/
def CancellationPolicy.code : CancellationPolicy → String
  | .freeCancel => "Free_Cancel"
  | .nonCancellable => "Non_Cancellable"

/-- The cancellation policy with a code. -/
def CancellationPolicy.ofCode? (code : String) : Option CancellationPolicy :=
  [CancellationPolicy.freeCancel, .nonCancellable].find? fun policy => policy.code == code

/-- A facility with the identifier that the geocoder gave it. -/
structure PointOfInterest where
  name : String
  latitude : Binary64
  longitude : Binary64
  placeId : String
  deriving DecidableEq, Repr

/-- What a partner is told about a product. -/
structure ProductContent where
  productId : Int64
  version : Int32
  title : String
  categories : List String
  pointsOfInterest : List PointOfInterest
  policy : CancellationPolicy
  imageIds : List String
  deriving DecidableEq, Repr

/-- A sellable unit as the partner sees it. -/
structure PackageUnit where
  code : String
  plu : String
  variantId : Int64
  variantName : String
  schedule : Option String
  round : Option String
  deriving DecidableEq, Repr

/-- The sellable units of a product, in order of emission. -/
structure PackageContent where
  productId : Int64
  units : List PackageUnit
  deriving DecidableEq, Repr

/-- What is syndicated for a product. -/
abbrev Payload := ProductContent × PackageContent

/-- A product can be cancelled free of charge as soon as one of its variants is both
refundable and approved. -/
def CancellationPolicy.of (product : Product) : CancellationPolicy :=
  if product.variants.any fun placed => placed.variant.refundable && placed.variant.approved then
    .freeCancel
  else .nonCancellable

end Syndication
