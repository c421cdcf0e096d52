import Syndication.Content.Basic
import Syndication.Image.Basic
import Syndication.Proofs.Plu.Emission

/-!
# What a product offers

Publication derives its documents from a part of the catalog entry: identifier, version,
title, option groups and images. Two products that agree there make the same offer, and
every derived document is the same for both. Status, supplier categories and facilities may
differ; the categories and places of a payload come from outside and are not compared.

The content comparison of ingestion is finer, so products with the same content make the
same offer. It compares coordinates as numbers and is therefore no equality of entries.
-/

namespace Syndication

/-- Two products agree in everything that their documents are derived from. -/
structure Product.SameOffer (left right : Product) : Prop where
  id : left.id = right.id
  version : left.version = right.version
  title : left.title = right.title
  groups : left.groups = right.groups
  images : left.images = right.images

namespace Product.SameOffer

variable {coding : Coding} {left right : Product}

/-- Every product makes its own offer. -/
theorem refl (product : Product) : product.SameOffer product := ⟨rfl, rfl, rfl, rfl, rfl⟩

/-- The order of the two products does not matter. -/
theorem symm (same : left.SameOffer right) : right.SameOffer left :=
  ⟨same.id.symm, same.version.symm, same.title.symm, same.groups.symm, same.images.symm⟩

/-- Products that make the offer of a third one make each other's. -/
theorem trans {third : Product} (first : left.SameOffer right) (second : right.SameOffer third) :
    left.SameOffer third :=
  ⟨first.id.trans second.id, first.version.trans second.version, first.title.trans second.title,
    first.groups.trans second.groups, first.images.trans second.images⟩

/-- The status is no part of the offer. -/
theorem withStatus (product : Product) (status : SyncStatus) :
    ({ product with status } : Product).SameOffer product := ⟨rfl, rfl, rfl, rfl, rfl⟩

/-- Products with the same content make the same offer. -/
theorem of_sameContent (same : left.sameContent right = true) : left.SameOffer right := by
  simp only [Product.sameContent, Bool.and_eq_true, beq_iff_eq] at same
  obtain ⟨⟨⟨⟨⟨⟨id, version⟩, title⟩, _⟩, groups⟩, _⟩, images⟩ := same
  exact ⟨id, version, title, groups, images⟩

/-- The variants are part of the offer. -/
theorem variants_eq (same : left.SameOffer right) : left.variants = right.variants := by
  unfold Product.variants
  rw [same.groups]

/-- The units of an offer are the same. -/
theorem units_eq (same : left.SameOffer right) : left.units = right.units := by
  unfold Product.units Product.options Product.optionUnits Product.variantUnits
  rw [same.groups, same.id, same.version]

/-- The texts of an offer are the same. -/
theorem texts_eq (same : left.SameOffer right) : left.texts = right.texts := by
  rw [Product.texts, Product.texts, same.units_eq]

/-- The images of an offer are the same records. -/
theorem imageRecords_eq (same : left.SameOffer right) : left.imageRecords = right.imageRecords := by
  rw [Product.imageRecords, Product.imageRecords, same.images, same.variants_eq, same.id]

/-- The cancellation policy of an offer is the same. -/
theorem policy_eq (same : left.SameOffer right) :
    CancellationPolicy.of left = CancellationPolicy.of right := by
  rw [CancellationPolicy.of, CancellationPolicy.of, same.variants_eq]

/-- The walk reads identifier and version of a product, and nothing else of it. -/
theorem visitItems_eq (same : left.SameOffer right) :
    Expansion.visitItems coding left = Expansion.visitItems coding right := by
  have unit : Expansion.unitText left = Expansion.unitText right := by
    funext variant segments
    simp only [Expansion.unitText, same.id, same.version]
  have texts : Expansion.variantTexts left = Expansion.variantTexts right := by
    funext type item variant
    simp only [Expansion.variantTexts, unit]
  have variants : Expansion.visitVariants coding left = Expansion.visitVariants coding right := by
    funext option item variants
    induction variants with
    | nil => rfl
    | cons variant rest inductionHypothesis =>
      funext emitted contribution
      simp only [Expansion.visitVariants, texts, inductionHypothesis]
  funext option items
  induction items with
  | nil => rfl
  | cons item rest inductionHypothesis =>
    funext emitted contribution
    simp only [Expansion.visitItems, variants, inductionHypothesis]

/-- The expansion of an offer is the same, its failure included. -/
theorem expand_eq (same : left.SameOffer right) : left.expand coding = right.expand coding := by
  have options : Expansion.visitOptions coding left = Expansion.visitOptions coding right := by
    funext options
    induction options with
    | nil => rfl
    | cons option rest inductionHypothesis =>
      funext emitted
      simp only [Expansion.visitOptions, same.visitItems_eq, inductionHypothesis]
  rw [Product.expand, Product.expand, options, Product.options, Product.options, same.groups]

/-- The view of an offer and its texts by code are the same. -/
theorem materialize_eq (same : left.SameOffer right) :
    left.materialize coding = right.materialize coding := by
  rw [Product.materialize, Product.materialize, same.expand_eq, same.id, same.version, same.title,
    same.variants_eq]

/-- The condition for an expansion is a property of the offer. -/
theorem codable_iff (same : left.SameOffer right) :
    left.Codable coding ↔ right.Codable coding := by
  rw [← Product.expand_ok_iff, ← Product.expand_ok_iff, same.expand_eq]

end Product.SameOffer

/-- Some content that the catalog has makes the same offer. -/
def Product.OfferedBy (catalog : Product → Prop) (product : Product) : Prop :=
  ∃ source, catalog source ∧ product.SameOffer source

/-- What the catalog has is offered under every status. -/
theorem Product.OfferedBy.withStatus {catalog : Product → Prop} {product : Product}
    (offered : product.OfferedBy catalog) (status : SyncStatus) :
    ({ product with status } : Product).OfferedBy catalog := by
  obtain ⟨source, inCatalog, same⟩ := offered
  exact ⟨source, inCatalog, (Product.SameOffer.withStatus product status).trans same⟩

/-- The rows of a view tell the cancellation policy. -/
theorem CancellationPolicy.of_eq_of_rows {left right : Product}
    (same : left.variants.map PlacedVariant.row = right.variants.map PlacedVariant.row) :
    CancellationPolicy.of left = CancellationPolicy.of right := by
  have byRows : ∀ product : Product,
      (product.variants.any fun placed => placed.variant.refundable && placed.variant.approved) =
        (product.variants.map PlacedVariant.row).any fun row => row.refundable && row.approved := by
    intro product
    rw [List.any_map]
    rfl
  rw [CancellationPolicy.of, CancellationPolicy.of, byRows left, byRows right, same]

end Syndication
