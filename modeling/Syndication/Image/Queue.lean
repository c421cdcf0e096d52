import Syndication.Backend

/-!
# Queueing images

The image stage hands every image of a product that was not queued for it before to
the image processor, and then marks the stage complete. What the queue holds already
is left as it is, with the identifiers assigned in the meantime.
-/

namespace Syndication

/-- Why the images of a product could not be queued. -/
inductive ImageError where
  | store (cause : StoreError)
  deriving DecidableEq, Repr

/-- The message of an image error. -/
def ImageError.message : ImageError → String
  | .store cause => "document store error: " ++ cause.message

/-- What the image stage did for a product. -/
structure ImageOutcome where
  queued : Nat
  alreadyQueued : Nat
  status : SyncStatus
  deriving DecidableEq, Repr

/-- The images of a product whose key is not among those queued, and the others. -/
def Product.splitImages (product : Product) (queued : List ImageRecord) :
    List ImageRecord × List ImageRecord :=
  product.imageRecords.partition fun record =>
    !(queued.map ImageRecord.key).contains record.key

/-- Queues the images of a product and marks the image stage complete. The queue is left
alone when nothing is missing from it. -/
def queueImages (outage : Outage) (product : Product) : Attempt Store ImageError ImageOutcome := do
  let queued ← (outage.queuedImages product.id).mapError .store
  let (missing, present) := product.splitImages queued
  if !missing.isEmpty then
    (outage.insertImages missing).mapError .store
  let status ← (outage.completeStage product.id product.version .image).mapError .store
  return ⟨missing.length, present.length, status⟩

end Syndication
