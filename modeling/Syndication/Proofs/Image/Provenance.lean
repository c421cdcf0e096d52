import Syndication.Proofs.Image.Growth

/-!
# Where the images of a payload come from

A payload lists the identifiers that were assigned to the images queued for its product. The queue
is kept by product and not by version, and nothing is taken out of it. So these are images of the
contents that came in for the product, not only of the one that is stored: an image that an edit
removed stays in the payload once it was queued and has an identifier. Only if all images that came
in are images of the product, the payload lists no others.
-/

namespace Syndication

open Attempt

/-- Asking collaborators leaves the store as it is. -/
theorem World.store_onOutside {γ ε α : Type} (attempt : Attempt γ ε α) :
    (World.onOutside attempt : Attempt (World γ) ε α).Leaves World.store := by
  intro world
  rw [World.runOn_onOutside]
  rfl

namespace Pipeline

variable {γ : Type} {pipeline : Pipeline γ} {outage : Outage} {product : Product}
  {world later : World γ} {payload : Payload}

/-- The identifiers in a payload are those of the images that are queued for the product. -/
theorem imageIds_of_buildPayload
    (built : (pipeline.buildPayload outage product).runOn world = (.ok payload, later)) :
    payload.1.imageIds =
      (world.store.queuedImages product.id).filterMap ImageRecord.tripImageId := by
  rw [buildPayload, Syndication.buildPayload] at built
  obtain ⟨_, asked, categorized, located⟩ := runOn_bind_ok_iff.mp built
  obtain ⟨_, placed, pointed, listed⟩ := runOn_bind_ok_iff.mp located
  obtain ⟨queued, _, read, packaged⟩ := runOn_bind_ok_iff.mp listed
  obtain ⟨_, _, _, made⟩ := runOn_bind_ok_iff.mp packaged
  -- The collaborators are asked before the queue is read.
  have storedAsked := World.store_onOutside
    ((pipeline.collaborators.categories product.categories).mapError BuildFailure.ofSetback) world
  have storedPlaced := World.store_onOutside
    ((locate pipeline.collaborators.geocoder product.facilities).mapError BuildFailure.ofSetback)
    asked
  rw [categorized] at storedAsked
  rw [pointed] at storedPlaced
  rw [World.runOn_onStore, Outage.queuedImages, runOn_mapError, Outage.runOn_onStore] at read
  have found : queued = placed.store.queuedImages product.id := by
    cases inReach : outage.store (.queuedImages product.id) with
    | some reason =>
      rw [inReach] at read
      cases read
    | none =>
      rw [inReach] at read
      cases read
      rfl
  cases made
  show queued.filterMap ImageRecord.tripImageId = _
  rw [found, ← storedAsked, ← storedPlaced]

/-- So each of them was assigned to an image in the queue that is the product's. -/
theorem mem_imageIds_iff
    (built : (pipeline.buildPayload outage product).runOn world = (.ok payload, later))
    (id : String) : id ∈ payload.1.imageIds ↔
      ∃ image ∈ world.store.images, image.productId = product.id ∧ image.tripImageId = some id := by
  simp only [imageIds_of_buildPayload built, Store.queuedImages, List.mem_filterMap,
    List.mem_filter, beq_iff_eq, and_assoc]

end Pipeline

namespace Operation

variable {γ : Type} {pipeline : Pipeline γ} {operations : List (Operation γ)} {outside : γ}
  {outage : Outage} {product : Product} {payload : Payload} {later : World γ}

/-- The images of a payload that is built after a run. Its identifiers are those of the images that
are queued for the product, in order. Each of these is an image of a content that came in under the
product's identifier, and of the product itself if that has all images that came in. An image that
had an identifier at some point of the run still has one, which is listed, whether the product has
the image now or not. -/
theorem image_ids_of_contents_that_came_in
    (built : (pipeline.buildPayload outage product).runOn
      (worldAfter pipeline operations outside) = (.ok payload, later)) :
    payload.1.imageIds =
      ((worldAfter pipeline operations outside).store.queuedImages product.id).filterMap
        ImageRecord.tripImageId ∧
    (∀ id ∈ payload.1.imageIds,
      ∃ image ∈ (worldAfter pipeline operations outside).store.images,
        image.tripImageId = some id ∧
        (∃ source, CameIn operations source ∧ source.id = product.id ∧
          image.key ∈ source.imageKeys) ∧
        ((∀ source, CameIn operations source → source.id = product.id →
          source.imageKeys ⊆ product.imageKeys) → image.key ∈ product.imageKeys)) ∧
    ∀ earlier more, operations = earlier ++ more →
      ∀ image ∈ (worldAfter pipeline earlier outside).store.images,
        image.productId = product.id → image.tripImageId.isSome = true →
        ∃ kept ∈ (worldAfter pipeline operations outside).store.images,
          kept.key = image.key ∧ ∃ id ∈ payload.1.imageIds, kept.tripImageId = some id := by
  refine ⟨Pipeline.imageIds_of_buildPayload built, ?_, ?_⟩
  · intro id member
    obtain ⟨image, queued, own, assigned⟩ := (Pipeline.mem_imageIds_iff built id).mp member
    have grown : Store.empty.Grown (CameIn operations) _ :=
      grown_of_run pipeline (fun _ cameIn => cameIn) outside
    obtain ⟨source, cameIn, pictured⟩ :=
      (grown.lengthened.mem_imageKeys (List.mem_map_of_mem queued)).resolve_left List.not_mem_nil
    have owner : source.id = product.id := by
      obtain ⟨shown, listed, same⟩ := List.mem_map.mp pictured
      rw [← Product.productId_of_mem_imageRecords listed, ← own]
      exact congrArg Prod.fst same
    exact ⟨image, queued, assigned, ⟨source, cameIn, owner, pictured⟩,
      fun all => all source cameIn owner pictured⟩
  · rintro earlier more rfl image queued own assigned
    obtain ⟨kept, stillQueued, sameKey, present⟩ :=
      (grown_between pipeline earlier more outside).lengthened.assigned image.key
        ⟨image, queued, rfl, assigned⟩
    obtain ⟨id, assignedNow⟩ := Option.isSome_iff_exists.mp present
    have ownKept : kept.productId = product.id := (congrArg Prod.fst sameKey).trans own
    exact ⟨kept, stillQueued, sameKey, id,
      (Pipeline.mem_imageIds_iff built id).mpr ⟨kept, stillQueued, ownKept, assignedNow⟩,
      assignedNow⟩

end Operation

/-! ## An edit that removes the image -/

namespace Tour

/-- The second version of the tour, which has no image. -/
def bare : Product := { edition 2 with images := [] }

/-- The image of the tour is imported, and then the version without it comes in. Everything up to
its content is published. -/
def edits : List (Operation Unit) :=
  [.ingest product Outage.none,
    .pass .view collaborators Outage.none.throughout,
    .pass .image collaborators Outage.none.throughout,
    .assign 7 "https://images.example/7" "trip-7",
    .ingest bare Outage.none,
    .pass .view collaborators Outage.none.throughout,
    .pass .image collaborators Outage.none.throughout,
    .reconcile Outage.none]

/-- The world after that. -/
def edited : World Unit := Operation.worldAfter (pipeline plainCoding) edits ()

/-- The payload of the version without the image lists the identifier of the image. -/
theorem built_bare : ∃ payload later,
    ((pipeline plainCoding).buildPayload Outage.none { bare with status := .imageReady }).runOn
      edited = (.ok payload, later) ∧ payload.1.imageIds = ["trip-7"] := by
  have listed : (((pipeline plainCoding).buildPayload Outage.none
      { bare with status := .imageReady }).runOn edited).1.toOption.map (·.1.imageIds) =
        some ["trip-7"] := by decide +kernel
  rcases ran : ((pipeline plainCoding).buildPayload Outage.none
      { bare with status := .imageReady }).runOn edited with ⟨failure | payload, later⟩
  · rw [ran] at listed
    cases listed
  · rw [ran] at listed
    exact ⟨payload, later, rfl, Option.some.inj listed⟩

/-- The identifier belongs to an image of a content that came in for the tour. -/
theorem removed_image_came_in : ∃ payload later,
    ((pipeline plainCoding).buildPayload Outage.none { bare with status := .imageReady }).runOn
      edited = (.ok payload, later) ∧ "trip-7" ∈ payload.1.imageIds ∧
    ∃ image ∈ edited.store.images, image.tripImageId = some "trip-7" ∧
      ∃ source, Operation.CameIn edits source ∧ source.id = 7 ∧ image.key ∈ source.imageKeys := by
  obtain ⟨payload, later, built, same⟩ := built_bare
  have listed : "trip-7" ∈ payload.1.imageIds := same ▸ List.mem_cons_self
  have provenance := Operation.image_ids_of_contents_that_came_in built
  obtain ⟨image, queued, assigned, came, _⟩ := provenance.2.1 "trip-7" listed
  exact ⟨payload, later, built, listed, image, queued, assigned, came⟩

/-- It belongs to no image of the version that is stored and published. -/
theorem removed_image_stays : ¬∀ (operations : List (Operation Unit)) (product : Product)
    (payload : Payload) (later : World Unit),
    (Operation.worldAfter (pipeline plainCoding) operations ()).store.products[product.id]? =
      some product →
    ((pipeline plainCoding).buildPayload Outage.none product).runOn
      (Operation.worldAfter (pipeline plainCoding) operations ()) = (.ok payload, later) →
    ∀ id ∈ payload.1.imageIds,
      ∃ image ∈ (Operation.worldAfter (pipeline plainCoding) operations ()).store.images,
        image.tripImageId = some id ∧ image.key ∈ product.imageKeys := by
  intro current
  obtain ⟨payload, later, built, same⟩ := built_bare
  have stored : edited.store.products[(7 : Int64)]? = some { bare with status := .imageReady } := by
    decide +kernel
  obtain ⟨image, _, _, shown⟩ := current edits { bare with status := .imageReady } payload
    later stored built "trip-7" (same ▸ List.mem_cons_self)
  have none : ({ bare with status := .imageReady } : Product).imageKeys = [] := by decide
  rw [none] at shown
  cases shown

end Tour

end Syndication
