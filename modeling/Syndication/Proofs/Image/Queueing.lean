import Mathlib.Data.List.Basic
import Syndication.Image.Queue

/-!
# Images in the queue

An image of a product is missing from what was read of the queue, or its key was read. Queueing
what is missing therefore brings the keys of all images into the queue, whatever was queued in
the meantime, and it brings in nothing but images of the product.
-/

namespace Syndication

namespace Product

variable {product : Product} {queued : List ImageRecord} {image : ImageRecord}

/-- The images of a product carry its identifier. -/
theorem productId_of_mem_imageRecords (member : image ∈ product.imageRecords) :
    image.productId = product.id := by
  obtain ⟨_, _, rfl⟩ := List.mem_map.mp member
  rfl

/-- An image that is missing is an image of the product. -/
theorem mem_imageRecords_of_missing (missing : image ∈ (product.splitImages queued).1) :
    image ∈ product.imageRecords := by
  rw [splitImages, List.partition_eq_filter_filter] at missing
  exact (List.mem_filter.mp missing).1

/-- An image of the product is missing, or its key was read. -/
theorem missing_or_mem_keys (member : image ∈ product.imageRecords) :
    image ∈ (product.splitImages queued).1 ∨ image.key ∈ queued.map ImageRecord.key := by
  rw [splitImages, List.partition_eq_filter_filter, List.mem_filter]
  by_cases known : image.key ∈ queued.map ImageRecord.key
  · exact Or.inr known
  · exact Or.inl ⟨member, by simpa using known⟩

/-- Every image of a product is missing or present. -/
theorem length_splitImages (product : Product) (queued : List ImageRecord) :
    (product.splitImages queued).1.length + (product.splitImages queued).2.length =
      product.imageRecords.length := by
  rw [splitImages, List.partition_eq_filter_filter]
  exact (List.length_eq_length_filter_add _).symm

end Product

namespace Store

/-- The keys of the queued images, in order. -/
abbrev imageKeys (store : Store) : List (Int64 × String × String) :=
  store.images.map ImageRecord.key

variable {store : Store} {records : List ImageRecord}

/-- The keys of the queue after images were queued: those that are new come after the others. -/
theorem imageKeys_insertImages (store : Store) (records : List ImageRecord) :
    (store.insertImages records).imageKeys = store.imageKeys ++
      (records.map ImageRecord.key).filter fun key => !store.imageKeys.contains key := by
  rw [imageKeys, insertImages, List.map_append, List.filter_map]
  rfl

/-- Queueing keeps the keys that are queued. -/
theorem mem_keys_insertImages {key : Int64 × String × String} (member : key ∈ store.imageKeys) :
    key ∈ (store.insertImages records).imageKeys := by
  rw [imageKeys_insertImages]
  exact List.mem_append_left _ member

/-- Queueing brings the keys of all records into the queue. -/
theorem key_mem_insertImages {image : ImageRecord} (member : image ∈ records) :
    image.key ∈ (store.insertImages records).imageKeys := by
  by_cases already : image.key ∈ store.imageKeys
  · exact mem_keys_insertImages already
  · rw [imageKeys_insertImages, List.mem_append]
    exact Or.inr (List.mem_filter.mpr ⟨List.mem_map_of_mem member, by simpa using already⟩)

/-- Assigning an identifier changes no key. -/
theorem imageKeys_assignImage (store : Store) (id : Int64) (url tripImageId : String) :
    (store.assignImage id url tripImageId).2.imageKeys = store.imageKeys := by
  rw [imageKeys, assignImage, List.map_map]
  apply List.map_congr_left
  intro image _
  rw [Function.comp_apply]
  split <;> rfl

/-- What is queued was queued before or is one of the records. -/
theorem mem_insertImages {image : ImageRecord}
    (member : image ∈ (store.insertImages records).images) :
    image ∈ store.images ∨ image ∈ records := by
  rw [insertImages, List.mem_append] at member
  exact member.imp_right fun added => (List.mem_filter.mp added).1

end Store

/-- Queues records, if there are any. -/
def queueMissing (outage : Outage) (missing : List ImageRecord) : Attempt Store ImageError Unit :=
  if missing.isEmpty then pure () else (outage.insertImages missing).mapError .store

/-- Queueing the images of a product reads the queue, queues what is missing and marks the stage
complete, one after the other. -/
theorem queueImages_eq (outage : Outage) (product : Product) :
    queueImages outage product = do
      let queued ← (outage.queuedImages product.id).mapError .store
      queueMissing outage (product.splitImages queued).1
      let status ← (outage.completeStage product.id product.version .image).mapError .store
      return ⟨(product.splitImages queued).1.length, (product.splitImages queued).2.length,
        status⟩ := by
  refine congrArg (_ >>= ·) (funext fun queued => ?_)
  generalize product.splitImages queued = split
  obtain ⟨missing, present⟩ := split
  cases missing <;> rfl

end Syndication
