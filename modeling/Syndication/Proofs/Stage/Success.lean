import Syndication.Pipeline
import Syndication.Proofs.Attempt.Success
import Syndication.Proofs.Content.Listing
import Syndication.Proofs.Image.Queueing
import Syndication.Proofs.Product.Progress

/-!
# What a stage needs to succeed

With no outage a stage succeeds on a candidate that is stored as it was listed, provided that
the product can be expanded and, for the content, that the collaborators answer and the cache
has the product's texts under their codes. Nothing else can stop it: the texts of a product
that can be expanded are all read back, and the flag of a stage that is ready can be set.
-/

namespace Syndication

open Attempt

/-- The collaborators succeed on every question, in every state of theirs. -/
structure Collaborators.Answer {γ : Type} (collaborators : Collaborators γ) : Prop where
  places : ∀ latitude longitude state, ∃ placeId,
    ((collaborators.geocoder latitude longitude).runOn state).1 = .ok placeId
  categories : ∀ codes state, ∃ names,
    ((collaborators.categories codes).runOn state).1 = .ok names

/-- The cache has every text of a product under its code. -/
def Cache.Covers (coding : Coding) (cache : Cache) (product : Product) : Prop :=
  ∀ text ∈ product.texts, ∀ code, coding.code text = .ok code → cache.get? code = some text

/-- The store with a product put under an identifier whose last complete stage is a given one. -/
def Store.advance (store : Store) (id : Int64) (product : Product) (stage : Stage) : Store :=
  { store with products := store.products.insert id { product with status := .after stage } }

variable {coding : Coding} {candidate : Product} {store : Store} {cache : Cache} {stage : Stage}

/-! ## View and images

The product stored under the candidate's identifier need not be the candidate: the flag is set
as long as the versions are the same. -/

/-- The flag of a stage can be set on a stored product of the candidate's version that is ready
for the stage. -/
theorem succeeds_completeStage {product : Product}
    (stored : store.products[candidate.id]? = some product)
    (version : product.version = candidate.version)
    (ready : product.status.isReadyFor stage = true) :
    (Outage.none.completeStage candidate.id candidate.version stage).Succeeds
      (fun _ later => later = store.advance candidate.id product stage) store := by
  have advanced := SyncStatus.complete_of_isReadyFor ready
  have completed : store.completeStage candidate.id candidate.version stage =
      .ok (.after stage, store.advance candidate.id product stage) := by
    simp [Store.completeStage, Store.advance, stored, version, advanced]
  refine succeeds_ofRun (.after stage) ?_ ?_
  · rw [completed]
  · rw [completed]

/-- Publishing a candidate that can be expanded succeeds: its view is stored, and the stored
product has a complete view. -/
theorem succeeds_publish {product : Product} {materialized : Materialized}
    (stored : store.products[candidate.id]? = some product)
    (version : product.version = candidate.version)
    (ready : product.status.isReadyFor .view = true)
    (formed : candidate.materialize coding = .ok materialized) :
    (publish coding Outage.none candidate).Succeeds
      (fun _ later => later.products = (store.advance candidate.id product .view).products ∧
        later.views[candidate.id]? = some materialized.view ∧ later.images = store.images)
      store := by
  have owner : materialized.view.productId = candidate.id := (candidate.materialize_ok formed).2.1
  have materializes : ((ofExcept (candidate.materialize coding)).mapError
      ViewError.integrity).Succeeds (fun found later => found = materialized ∧ later = store)
      store := by
    refine Succeeds.wrapped (succeeds_ofExcept formed ?_)
    exact ⟨rfl, rfl⟩
  refine materializes.followed ?_
  rintro materialized store ⟨rfl, rfl⟩
  have viewed : (Outage.none.upsertView materialized.view).Succeeds
      (fun _ later => later = store.upsertView materialized.view) store := succeeds_ofRun _ rfl rfl
  refine viewed.wrapped.followed ?_
  rintro _ _ rfl
  have recorded : (Outage.none.mergeHashes candidate.id materialized.hashes).Succeeds
      (fun _ later => later.products = store.products ∧
        later.views = (store.upsertView materialized.view).views ∧ later.images = store.images)
      (store.upsertView materialized.view) := succeeds_ofRun _ rfl ⟨rfl, rfl, rfl⟩
  refine recorded.wrapped.followed ?_
  rintro _ later ⟨products, views, images⟩
  rw [← products] at stored
  refine (succeeds_completeStage stored version ready).wrapped.followed ?_
  rintro _ _ rfl
  refine succeeds_pure ⟨?_, ?_, images⟩
  · simp only [Store.advance, products]
  · show later.views[candidate.id]? = _
    rw [views]
    simp [Store.upsertView, owner]

/-- Queueing what is missing succeeds. Nothing else is queued, and no product is changed. -/
theorem succeeds_queueMissing {missing : List ImageRecord} :
    (queueMissing Outage.none missing).Succeeds
      (fun _ (later : Store) => later.products = store.products ∧
        ∀ image ∈ later.images, image ∈ store.images ∨ image ∈ missing) store := by
  unfold queueMissing
  split
  case isTrue => exact succeeds_pure ⟨rfl, fun _ member => Or.inl member⟩
  case isFalse =>
    have inserted : (Outage.none.insertImages missing).Succeeds
        (fun _ later => later = store.insertImages missing) store := succeeds_ofRun _ rfl rfl
    refine inserted.wrapped.weaken ?_
    rintro _ _ rfl
    exact ⟨rfl, fun _ member => Store.mem_insertImages member⟩

/-- Queueing images succeeds on every candidate: images of the candidate are queued and no
others, and the stored product has complete images. -/
theorem succeeds_queueImages {product : Product}
    (stored : store.products[candidate.id]? = some product)
    (version : product.version = candidate.version)
    (ready : product.status.isReadyFor .image = true) :
    (queueImages Outage.none candidate).Succeeds
      (fun _ (later : Store) =>
        later.products = (store.advance candidate.id product .image).products ∧
        ∀ image ∈ later.images, image ∈ store.images ∨ image ∈ candidate.imageRecords)
      store := by
  rw [queueImages_eq]
  have listed : (Outage.none.queuedImages candidate.id).Succeeds
      (fun _ later => later = store) store := succeeds_ofRun _ rfl rfl
  refine listed.wrapped.followed ?_
  rintro queued store rfl
  refine Succeeds.followed succeeds_queueMissing ?_
  rintro _ later ⟨products, queuedThen⟩
  rw [← products] at stored
  refine (succeeds_completeStage stored version ready).wrapped.followed ?_
  rintro _ _ rfl
  refine succeeds_pure ⟨?_, fun image member => ?_⟩
  · simp only [Store.advance, products]
  · exact (queuedThen image member).imp_right Product.mem_imageRecords_of_missing

/-! ## Content -/

/-- The cache confirms every text of an expansion exactly when it covers the product. -/
theorem Cache.covers_iff {product : Product} {details : List PluDetail}
    (expanded : product.expand coding = .ok details) :
    cache.Covers coding product ↔
      cache.firstUnconfirmed? coding (details.flatMap PluDetail.plus) = none := by
  obtain ⟨codable, emitted, _⟩ := product.expand_ok expanded
  rw [Cache.firstUnconfirmed?, List.find?_eq_none, emitted]
  simp only [List.mem_eraseDups, Bool.not_eq_true', Bool.not_eq_false]
  constructor
  · intro covered text member
    obtain ⟨code, coded⟩ := codable.coded text member
    exact (Cache.confirms_iff coded).mpr (covered text member code coded)
  · intro confirmed text member code coded
    exact (Cache.confirms_iff coded).mp (confirmed text member)

/-- The units of a product that can be expanded can be formed when the cache covers it. -/
theorem succeeds_packageUnits (codable : candidate.Codable coding)
    (covered : cache.Covers coding candidate) :
    (packageUnits coding Outage.none candidate).Succeeds (fun _ later => later = cache) cache := by
  obtain ⟨details, expanded⟩ := Product.expand_ok_iff.mpr codable
  obtain ⟨listing, same⟩ := listing_packageUnits Outage.none cache expanded
  refine meets_alone_iff.mpr ?_
  generalize ((packageUnits coding Outage.none candidate).runOn cache).1 = result at listing
  cases listing with
  | listed => exact ⟨_, rfl, same⟩
  | unreadable fails => cases fails
  | unresolved first => cases ((Cache.covers_iff expanded).mp covered).symm.trans first

section World

variable {γ : Type} {pipeline : Pipeline γ} {world : World γ}

/-- The view stage publishes, and changes nothing beside the store. -/
theorem Pipeline.succeeds_process_view {product : Product} {materialized : Materialized}
    (stored : world.store.products[candidate.id]? = some product)
    (version : product.version = candidate.version)
    (ready : product.status.isReadyFor .view = true)
    (formed : candidate.materialize pipeline.coding = .ok materialized) :
    (pipeline.process Outage.none .view candidate).Succeeds
      (fun _ later =>
        later.store.products = (world.store.advance candidate.id product .view).products ∧
        later.store.views[candidate.id]? = some materialized.view ∧
        later.store.images = world.store.images) world := by
  refine Succeeds.followed (Succeeds.focus
    (succeeds_publish stored version ready formed).wrapped) ?_
  rintro _ _ ⟨changed, rfl, reached⟩
  exact succeeds_pure reached

/-- The image stage queues, and changes nothing beside the store. -/
theorem Pipeline.succeeds_process_image {product : Product}
    (stored : world.store.products[candidate.id]? = some product)
    (version : product.version = candidate.version)
    (ready : product.status.isReadyFor .image = true) :
    (pipeline.process Outage.none .image candidate).Succeeds
      (fun _ later =>
        later.store.products = (world.store.advance candidate.id product .image).products ∧
        ∀ image ∈ later.store.images,
          image ∈ world.store.images ∨ image ∈ candidate.imageRecords) world := by
  refine Succeeds.followed (Succeeds.focus
    (succeeds_queueImages stored version ready).wrapped) ?_
  rintro _ _ ⟨changed, rfl, reached⟩
  exact succeeds_pure reached

/-- Locating facilities succeeds when the geocoder answers. -/
theorem succeeds_locate {collaborators : Collaborators γ} (answers : collaborators.Answer)
    {facilities : List Facility} {state : γ} :
    (locate collaborators.geocoder facilities).Succeeds (fun _ _ => True) state := by
  induction facilities generalizing state with
  | nil => exact succeeds_pure trivial
  | cons facility rest inductionHypothesis =>
    obtain ⟨placeId, found⟩ := answers.places facility.latitude facility.longitude state
    have placed : (collaborators.geocoder facility.latitude facility.longitude).Succeeds
        (fun _ _ => True) state := meets_alone_iff.mpr ⟨placeId, found, trivial⟩
    refine placed.followed fun _ _ _ => ?_
    exact inductionHypothesis.followed fun _ _ _ => succeeds_pure trivial

/-- Building a payload succeeds when the collaborators answer and the cache covers the product.
Neither service is changed. -/
theorem Pipeline.succeeds_buildPayload (answers : pipeline.collaborators.Answer)
    (codable : candidate.Codable pipeline.coding)
    (covered : world.cache.Covers pipeline.coding candidate) :
    (pipeline.buildPayload Outage.none candidate).Succeeds
      (fun _ later => later.backend = world.backend) world := by
  obtain ⟨names, named⟩ := answers.categories candidate.categories world.outside
  have categories : (pipeline.collaborators.categories candidate.categories).Succeeds
      (fun _ _ => True) world.outside := meets_alone_iff.mpr ⟨names, named, trivial⟩
  refine Succeeds.followed (Succeeds.focus categories.wrapped) ?_
  rintro categories _ ⟨outside, rfl, _⟩
  refine Succeeds.followed (Succeeds.focus (succeeds_locate answers).wrapped) ?_
  rintro points _ ⟨outside, rfl, _⟩
  have listed : (Outage.none.queuedImages candidate.id).Succeeds
      (fun _ later => later = world.store) world.store := succeeds_ofRun _ rfl rfl
  refine Succeeds.followed (Succeeds.focus listed.wrapped) ?_
  rintro queued _ ⟨_, rfl, rfl⟩
  refine Succeeds.followed (Succeeds.focus (succeeds_packageUnits codable covered).wrapped) ?_
  rintro units _ ⟨_, rfl, rfl⟩
  exact succeeds_pure rfl

end World

end Syndication
