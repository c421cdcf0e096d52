import Syndication.Proofs.Run.Operations
import Syndication.Proofs.Sequence.FirstPlaces
import Syndication.Proofs.Stage.Flagging

/-!
# Missing images

A product shows its own images and then those of its variants, and what is extracted of them has
each once, at its first place. The image stage hands on the ones that are missing from the queue.
Extraction, stage and queue each leave out what they have met already, and against a queue that
holds anything the three agree: the missing images come behind what is queued, in the order in
which the product shows them, and nothing else changes but the status of the product.
-/

namespace Syndication

open Attempt

/-- How an image is shown: by its address and its role. -/
def ProductImage.shown (image : ProductImage) : String × String := (image.url, image.typeCode)

/-- How a queued image is shown. -/
def ImageRecord.shown (image : ImageRecord) : String × String := (image.url, image.typeCode)

namespace Product

variable {product : Product}

/-- The images that a product shows, with every repetition: its own, and then those of its
variants, in walking order. -/
def shownImages (product : Product) : List (String × String) :=
  product.images.map ProductImage.shown ++ product.groups.flatMap fun group =>
    group.options.flatMap fun option => option.items.flatMap fun item =>
      item.variants.flatMap fun variant => variant.images.map ProductImage.shown

/-- They are the images of the product and of the variants that it is walked through. -/
theorem shownImages_eq : product.shownImages =
    (product.images ++ product.variants.flatMap fun placed => placed.variant.images).map
      ProductImage.shown := by
  simp only [shownImages, variants, List.map_append, List.flatMap_assoc, List.map_flatMap,
    List.flatMap_map]

/-- The images extracted are those shown, each once, at its first place. -/
theorem firstPlaces_imageRecords (product : Product) :
    FirstPlaces product.shownImages (product.imageRecords.map ImageRecord.shown) := by
  have apart : Function.Injective ProductImage.shown := by
    rintro ⟨url, typeCode⟩ ⟨_, _⟩ ⟨⟩
    rfl
  rw [shownImages_eq, imageRecords, List.map_map]
  exact (firstPlaces_iff.mpr rfl).map apart

/-- An image that is extracted has no identifier from the image processor. -/
theorem tripImageId_of_mem_imageRecords {image : ImageRecord}
    (member : image ∈ product.imageRecords) : image.tripImageId = none := by
  obtain ⟨_, _, rfl⟩ := List.mem_map.mp member
  rfl

end Product

/-! ## The queue -/

namespace Store

variable {store : Store} {product : Product}

/-- An image is queued for its product, whether it was assigned an identifier or not. -/
def Queued (store : Store) (image : ImageRecord) : Prop :=
  ∃ queued ∈ store.images, queued.productId = image.productId ∧ queued.shown = image.shown

instance (store : Store) : DecidablePred store.Queued := fun _ =>
  inferInstanceAs (Decidable (∃ queued ∈ store.images, _))

/-- The images of a product that are not queued for it, in the order in which they are extracted. -/
def missingImages (store : Store) (product : Product) : List ImageRecord :=
  product.imageRecords.filter fun image => ¬store.Queued image

/-- An image is queued when its key is. -/
theorem queued_iff (image : ImageRecord) : store.Queued image ↔ image.key ∈ store.imageKeys := by
  simp only [Queued, imageKeys, List.mem_map, ImageRecord.key, ImageRecord.shown, Prod.mk.injEq]

/-- The stage finds missing what is not queued for the product. -/
theorem missing_of_queuedImages :
    (product.splitImages (store.queuedImages product.id)).1 = store.missingImages product := by
  rw [Product.splitImages, List.partition_eq_filter_filter]
  apply List.filter_congr
  intro image member
  rw [Bool.eq_iff_iff, decide_eq_true_iff, queued_iff,
    ← mem_keys_queuedImages (Product.productId_of_mem_imageRecords member)]
  simp

/-- The queue takes in all of the missing images, behind what it holds. -/
theorem insertImages_missing : store.insertImages (store.missingImages product) =
    { store with images := store.images ++ store.missingImages product } := by
  have new : ∀ image ∈ store.missingImages product,
      (!store.imageKeys.contains image.key) = true := by
    intro image member
    have missing := (List.mem_filter.mp member).2
    rw [decide_eq_true_iff, queued_iff] at missing
    simpa using missing
  rw [insertImages, List.filter_eq_self.mpr new]

end Store

/-- What the image stage tells of a product, and what it leaves. The missing images are queued
behind the others and counted, the rest of the images is counted as queued already, and besides the
queue only the status of the stored product changes. -/
structure ImageOutcome.Reports (outcome : ImageOutcome) (product : Product) (before after : Store) :
    Prop where
  queue : after.images = before.images ++ before.missingImages product
  queued : outcome.queued = (before.missingImages product).length
  total : outcome.queued + outcome.alreadyQueued = product.imageRecords.length
  besides : ∃ stored, before.products[product.id]? = some stored ∧
    { after with images := before.images } =
      { before with
        products := before.products.insert product.id { stored with status := outcome.status } }

/-- An image stage that goes through reports what it did. -/
theorem reports_of_queueImages {outage : Outage} {product : Product} {before after : Store}
    {outcome : ImageOutcome}
    (ran : (queueImages outage product).runOn before = (.ok outcome, after)) :
    outcome.Reports product before after := by
  rw [queueImages_eq_flagging] at ran
  have ended := flagging_outcome outage .image product (outage.writeImages product)
    (fun split status => (⟨split.1.length, split.2.length, status⟩ : ImageOutcome)) before
  rw [runOn_mapError_ok_iff.mp ran] at ended
  cases ended with
  | flagged written middle reached wrote _ completed =>
    obtain ⟨_, rfl, _, rfl⟩ := Outage.runOn_writeImages_ok_iff.mp wrote
    obtain ⟨stored, found, _, _, changed⟩ := Store.completeStage_ok completed
    rw [Store.missing_of_queuedImages, Store.insertImages_missing] at changed found
    constructor
    case queue => rw [changed]
    case queued => rw [Store.missing_of_queuedImages]
    case total => exact product.length_splitImages _
    case besides => exact ⟨stored, found, by rw [changed]⟩

/-- Extraction has every image that a product shows once, at its first place, for the product and
without an identifier. An image stage that goes through, whatever the queue holds, brings in exactly
the extracted images that are not queued for the product, in this order and behind everything else,
and tells how many these were and how many were queued already. It changes nothing else but the
status of the product. -/
theorem Product.missing_images_queued_once (product : Product) :
    FirstPlaces product.shownImages (product.imageRecords.map ImageRecord.shown) ∧
      (∀ image ∈ product.imageRecords, image.productId = product.id ∧ image.tripImageId = none) ∧
      ∀ (outage : Outage) (before after : Store) (outcome : ImageOutcome),
        (queueImages outage product).runOn before = (.ok outcome, after) →
          outcome.Reports product before after := by
  refine ⟨product.firstPlaces_imageRecords, fun image member => ?_, ?_⟩
  · exact ⟨productId_of_mem_imageRecords member, tripImageId_of_mem_imageRecords member⟩
  · exact fun outage before after outcome ran => reports_of_queueImages ran

/-! ## A tour whose images repeat -/

namespace Tour

/-- The tour with images that it shares with its variant, which shows one of them in two roles. -/
def illustrated : Product :=
  { product with
    images := [⟨"https://images.example/7", "MAIN"⟩, ⟨"https://images.example/pier", "GALLERY"⟩]
    groups := [⟨1, "Tickets", [⟨2, "Entry", .list, [⟨3, "Day", [⟨4, "Adult", true, true,
      [⟨"https://images.example/7", "MAIN"⟩, ⟨"https://images.example/7", "THUMB"⟩]⟩],
      [], []⟩]⟩]⟩]
    status := .viewReady }

/-- A store in which one of the images is queued for the tour, and another one for another tour. -/
def sharedQueue : Store :=
  { Store.ofProducts [illustrated] with
    images := [⟨7, "https://images.example/7", "MAIN", some "trip-7"⟩,
      ⟨43, "https://images.example/7", "THUMB", none⟩] }

/-- The two images that are not queued for the tour come behind the others. -/
theorem missing_images_behind_others : ∃ outcome after,
    (queueImages Outage.none illustrated).runOn sharedQueue = (.ok outcome, after) ∧
      after.images = sharedQueue.images ++
        [⟨7, "https://images.example/pier", "GALLERY", none⟩,
          ⟨7, "https://images.example/7", "THUMB", none⟩] ∧
      outcome.queued = 2 ∧ outcome.alreadyQueued = 1 := by
  have succeeded : ((queueImages Outage.none illustrated).runOn sharedQueue).1.isOk = true := by
    decide +kernel
  rcases ran : (queueImages Outage.none illustrated).runOn sharedQueue with ⟨cause | outcome, after⟩
  · rw [ran] at succeeded
    cases succeeded
  · have reports := illustrated.missing_images_queued_once.2.2 Outage.none sharedQueue after outcome
      ran
    have missing : sharedQueue.missingImages illustrated =
        [⟨7, "https://images.example/pier", "GALLERY", none⟩,
          ⟨7, "https://images.example/7", "THUMB", none⟩] := by decide +kernel
    have extracted : illustrated.imageRecords.length = 3 := by decide +kernel
    have queued := reports.queued
    have total := reports.total
    rw [missing] at queued
    rw [queued, extracted] at total
    refine ⟨outcome, after, rfl, ?_, queued, Nat.add_left_cancel total⟩
    rw [reports.queue, missing]

end Tour

end Syndication
