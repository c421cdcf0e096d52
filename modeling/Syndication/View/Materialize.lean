import Syndication.Plu.Expansion

/-!
# Materializing the view

The view of a product and the codes it publishes are computed from the product
alone. The rows of the view are its variants in walking order, whatever units they
have.
-/

namespace Syndication

/-- A view together with the texts by code that it publishes. -/
structure Materialized where
  view : ProductView
  hashes : PluHashes
  deriving DecidableEq

/-- The row of a variant. -/
def PlacedVariant.row (placed : PlacedVariant) : ViewVariant where
  groupId := placed.group.id
  optionId := placed.option.id
  itemId := placed.item.id
  variantId := placed.variant.id
  name := placed.variant.name
  type := placed.option.type
  refundable := placed.variant.refundable
  approved := placed.variant.approved

/-- The view of a product, unless the product cannot be expanded. -/
def Product.materialize (coding : Coding) (product : Product) :
    Except ExpansionError Materialized := do
  let details ← product.expand coding
  let view : ProductView :=
    ⟨product.id, product.version, product.title, product.variants.map PlacedVariant.row, details⟩
  .ok ⟨view, view.hashes⟩

end Syndication
