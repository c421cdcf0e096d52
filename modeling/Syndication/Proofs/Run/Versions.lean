import Syndication.Proofs.Run.Operations
import Syndication.Proofs.Run.Races

/-!
# When a version tells enough

A flag is set when the stored version is the one that the pass has listed. That protects what the
flag says against every edit that raises the version, and against no other. So the outputs agree
with the products in every interleaving exactly when the contents that share identifier and
version give the same view and the same images, as far as they can be expanded at all.

For the other direction two races are enough, one for the view and one for the images.
-/

namespace Syndication

open Attempt

/-- Contents of the catalog with one identifier and version give the same view and the same
images, if one of them can be expanded. -/
def Coding.VersionsDetermine (coding : Coding) (catalog : Product → Prop) : Prop :=
  ∀ first second, catalog first → catalog second → first.id = second.id →
    first.version = second.version → ∀ materialized, first.materialize coding = .ok materialized →
      second.materialize coding = .ok materialized ∧
        ∀ image ∈ second.imageRecords, image.key ∈ first.imageRecords.map ImageRecord.key

namespace Coding.VersionsDetermine

variable {coding : Coding} {catalog : Product → Prop} {product source : Product}

/-- What holds of the contents in the catalog holds of the products that offer them. -/
theorem same (determine : coding.VersionsDetermine catalog)
    (like : product.SameVersion catalog source) {materialized : Materialized}
    (formed : product.materialize coding = .ok materialized) :
    source.materialize coding = .ok materialized ∧
      ∀ image ∈ source.imageRecords, image.key ∈ product.imageRecords.map ImageRecord.key := by
  obtain ⟨content, inCatalog, offer⟩ := like.left
  obtain ⟨other, otherIn, otherOffer⟩ := like.right
  rw [offer.materialize_eq] at formed
  rw [otherOffer.materialize_eq, otherOffer.imageRecords_eq, offer.imageRecords_eq]
  refine determine content other inCatalog otherIn ?_ ?_ materialized formed
  · rw [← offer.id, like.id, otherOffer.id]
  · rw [← offer.version, like.version, otherOffer.version]

end Coding.VersionsDetermine

/-- A store that agrees with its products up to edits that keep the version shows what the flags
say, where versions determine the outputs. A stage after the view relies on the view for knowing
that the product can be expanded. -/
theorem Store.Agrees.shows {coding : Coding} {catalog : Product → Prop} {store : Store}
    (agrees : store.Agrees coding (Product.SameVersion catalog))
    (determine : coding.VersionsDetermine catalog) {id : Int64} {product : Product} {stage : Stage}
    (stored : store.products[id]? = some product)
    (complete : product.status.isComplete stage = true) : store.Shows coding product stage := by
  have viewComplete : product.status.isComplete .view = true := by
    cases stage with
    | view => exact complete
    | image => exact SyncStatus.isComplete_prerequisite rfl complete
    | content =>
      exact SyncStatus.isComplete_prerequisite rfl (SyncStatus.isComplete_prerequisite rfl complete)
  obtain ⟨viewSource, viewLike, materialized, formedView, viewed, published⟩ :=
    agrees.shown id product .view stored viewComplete
  have formed : product.materialize coding = .ok materialized :=
    (determine.same viewLike.symm formedView).1
  obtain ⟨source, like, shown⟩ := agrees.shown id product stage stored complete
  obtain ⟨formedSource, _⟩ := determine.same like formed
  cases stage with
  | view =>
    rw [← viewLike.id] at viewed published
    exact ⟨materialized, formed, viewed, published⟩
  | image =>
    intro image member
    obtain ⟨other, otherIn, sameKey⟩ :=
      List.mem_map.mp ((determine.same like.symm formedSource).2 image member)
    exact sameKey ▸ shown other otherIn
  | content =>
    obtain ⟨payload, paid, describes⟩ := shown
    refine ⟨payload, like.id ▸ paid, ?_⟩
    exact describes.of_sameView formed formedSource

/-- The outputs agree with the stored products whoever acts when, exactly where the contents that
share identifier and version share their outputs. -/
theorem Situation.outputs_agree_iff {γ : Type} (pipeline : Pipeline γ) (catalog : Product → Prop)
    (outside : γ) :
    (∀ situation : Situation γ, situation.Reached pipeline catalog outside →
      ∀ (id : Int64) (product : Product) (stage : Stage),
        situation.world.store.products[id]? = some product →
        product.status.isComplete stage = true →
          situation.world.store.Shows pipeline.coding product stage) ↔
      pipeline.coding.VersionsDetermine catalog := by
  constructor
  case mpr =>
    intro determine situation reached id product stage stored complete
    exact reached.kept.agrees.shows determine stored complete
  case mp =>
    intro agree first second firstIn secondIn id version materialized formed
    have formedThen : second.materialize pipeline.coding = .ok materialized := by
      obtain ⟨situation, reached, holds, viewed⟩ :=
        Situation.reaches_stale_view firstIn secondIn id version formed
      obtain ⟨shown, formedShown, shownView, _⟩ :=
        agree situation reached _ _ .view holds.stored rfl
      rw [(second.sameOffer_under .viewReady).materialize_eq] at formedShown
      have same := Option.some.inj (shownView.symm.trans viewed)
      rwa [first.materialize_eq_of_view formed formedShown same] at formedShown
    refine ⟨formedThen, ?_⟩
    cases edit : second.sameContent first with
    | true =>
      intro image member
      rw [(Product.SameOffer.of_sameContent edit).imageRecords_eq] at member
      exact List.mem_map_of_mem member
    | false =>
      obtain ⟨situation, reached, holds, queued⟩ :=
        Situation.reaches_stale_images firstIn secondIn id version edit formed formedThen
      have shown := agree situation reached _ _ .image holds.stored rfl
      intro image member
      obtain ⟨other, otherIn, sameKey⟩ := List.mem_map.mp (shown image member)
      exact List.mem_map.mpr ⟨other, queued other otherIn, sameKey⟩

/-- The tour under another title. -/
def Tour.renamed : Product := { product with title := "Harbour tour" }

/-- A tour that is renamed without a new version while the view stage is at it ends up with a
complete view that has the old title. -/
theorem Tour.renamed_under_stale_view : ∃ situation : Situation Unit,
    situation.Reached (pipeline plainCoding) (fun entry => entry = product ∨ entry = renamed) () ∧
      ∃ stored : Product, situation.world.store.products[(7 : Int64)]? = some stored ∧
        stored.title = "Harbour tour" ∧ stored.status.isComplete .view = true ∧
        (∃ view, situation.world.store.views[(7 : Int64)]? = some view ∧ view.title = "Tour") ∧
        ¬situation.world.store.Shows plainCoding stored .view := by
  have expandable : (product.materialize plainCoding).isOk = true := by decide +kernel
  cases formed : product.materialize plainCoding with
  | error cause =>
    rw [formed] at expandable
    cases expandable
  | ok materialized =>
    obtain ⟨situation, reached, holds, viewed⟩ : ∃ situation : Situation Unit,
        situation.Reached (pipeline plainCoding)
          (fun entry => entry = product ∨ entry = renamed) () ∧ _ :=
      Situation.reaches_stale_view (.inl rfl) (.inr rfl) rfl rfl formed
    obtain ⟨_, _, view, _⟩ := product.view_of_materialize formed
    have title : materialized.view.title = "Tour" := by
      rw [view]
      rfl
    refine ⟨situation, reached, _, holds.stored, rfl, rfl, ⟨_, viewed, title⟩, ?_⟩
    rintro ⟨shown, formedShown, shownView, _⟩
    obtain ⟨_, _, renamedView, _⟩ := Product.view_of_materialize formedShown
    rw [Option.some.inj (viewed.symm.trans shownView), renamedView] at title
    have impossible : "Harbour tour" = "Tour" := title
    exact absurd impossible (by decide)

end Syndication
