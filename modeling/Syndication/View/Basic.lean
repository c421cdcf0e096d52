import Std.Data.ExtTreeMap
import Syndication.Product.Basic

/-!
# The view of a product

The view is the product flattened for readers: one row for each variant, and for
each option the sellable units that it is the first to contribute. It holds nothing
that cannot be computed from the product again.

Texts by code are kept in extensional maps: two of them are equal when every look-up
gives the same answer, whatever the order of insertion.
-/

namespace Syndication

/-- Canonical PLU texts by their codes, in the order of the codes. -/
abbrev PluHashes := Std.ExtTreeMap String String

/-- A variant as the flattened view shows it. -/
structure ViewVariant where
  groupId : Int64
  optionId : Int64
  itemId : Int64
  variantId : Int64
  name : String
  type : OptionType
  refundable : Bool
  approved : Bool
  deriving DecidableEq, Repr

/-- The sellable units that an option is the first to contribute: their canonical texts in
order of emission, and the same texts by code. -/
structure PluDetail where
  optionId : Int64
  type : OptionType
  plus : List String
  hashes : PluHashes
  deriving DecidableEq

/-- The flattened view of a product. -/
structure ProductView where
  productId : Int64
  version : Int32
  title : String
  variants : List ViewVariant
  details : List PluDetail
  deriving DecidableEq

/-- The texts of every detail by code. -/
def ProductView.hashes (view : ProductView) : PluHashes :=
  view.details.foldl (fun hashes detail => hashes ∪ detail.hashes) ∅

end Syndication
