import Syndication.Proofs.Content.Payload
import Syndication.Proofs.Image.Queueing
import Syndication.Proofs.Store.Dossier

/-!
# Writing and flagging

The three stages end alike: they write their output and then mark themselves complete on the stored
product. `Outage.flagging` is this common end, and each stage is an instance of it. So whatever
becomes of the flag is shown once: the output cannot be written, or it is written and the flag is
refused, or both succeed. All of it happens in the dossier of one product.
-/

namespace Syndication

open Attempt

variable {α β : Type} {outage : Outage} {product : Product} {stage : Stage}
  {materialized : Materialized}

namespace Outage

/-- The output of a stage is written, and then the stage is marked complete. What is told is made of
what the writing gave and the status that is reached. -/
def flagging (outage : Outage) (stage : Stage) (product : Product)
    (writes : Attempt Store StoreError α) (make : α → SyncStatus → β) :
    Attempt Store StoreError β := do
  let written ← writes
  let status ← outage.completeStage product.id product.version stage
  return make written status

/-- The view of a product is stored and its texts are added to those published for it. -/
def writeView (outage : Outage) (product : Product) (materialized : Materialized) :
    Attempt Store StoreError Nat := do
  outage.upsertView materialized.view
  outage.mergeHashes product.id materialized.hashes

/-- Images are queued, if there are any. -/
def insertMissing (outage : Outage) (missing : List ImageRecord) : Attempt Store StoreError Unit :=
  if missing.isEmpty then pure () else outage.insertImages missing

/-- The images of a product that are missing from the queue are queued. -/
def writeImages (outage : Outage) (product : Product) :
    Attempt Store StoreError (List ImageRecord × List ImageRecord) := do
  let queued ← outage.queuedImages product.id
  outage.insertMissing (product.splitImages queued).1
  return product.splitImages queued

end Outage

/-- Publishing is writing the view that the product materializes with, and flagging. -/
theorem publish_eq_flagging (coding : Coding) (outage : Outage) (product : Product) :
    publish coding outage product =
      (ofExcept (product.materialize coding)).mapError .integrity >>= fun materialized =>
        (outage.flagging .view product (outage.writeView product materialized)
          (Published.mk materialized)).mapError .store := by
  simp only [publish, Outage.flagging, Outage.writeView, bind_assoc, mapError_bind]
  rfl

/-- Queueing what is missing is inserting it, with the error of the stage. -/
theorem queueMissing_eq (outage : Outage) (missing : List ImageRecord) :
    queueMissing outage missing = (outage.insertMissing missing).mapError .store := by
  rw [queueMissing, Outage.insertMissing]
  split <;> rfl

/-- Queueing the images is writing those that are missing, and flagging. -/
theorem queueImages_eq_flagging (outage : Outage) (product : Product) :
    queueImages outage product =
      (outage.flagging .image product (outage.writeImages product)
        fun split status => ⟨split.1.length, split.2.length, status⟩).mapError .store := by
  simp only [queueImages_eq, queueMissing_eq, Outage.flagging, Outage.writeImages, bind_assoc,
    mapError_bind]
  rfl

/-- Storing a payload is writing it, and flagging. -/
theorem storePayload_eq_flagging (outage : Outage) (product : Product) (payload : Payload) :
    storePayload outage product payload =
      (outage.flagging .content product (outage.upsertContent payload)
        fun _ status => ⟨payload.2.units.length, status⟩).mapError .store := by
  simp only [storePayload, Outage.flagging, mapError_bind]
  rfl

/-! ## How it can end -/

/-- What writing and flagging can lead to: the result, and the store afterwards. -/
inductive FlaggingOutcome (outage : Outage) (stage : Stage) (product : Product)
    (writes : Attempt Store StoreError α) (make : α → SyncStatus → β) (before : Store) :
    Except StoreError β × Store → Prop
  /-- The output cannot be written. -/
  | unwritten (cause : StoreError) (after : Store)
      (ran : writes.runOn before = (.error cause, after)) :
      FlaggingOutcome outage stage product writes make before (.error cause, after)
  /-- The output is written, but the flag cannot be set. -/
  | unflagged (written : α) (cause : StoreError) (after : Store)
      (ran : writes.runOn before = (.ok written, after)) :
      FlaggingOutcome outage stage product writes make before (.error cause, after)
  /-- The output is written and the flag is set. -/
  | flagged (written : α) (middle : Store) (reached : SyncStatus × Store)
      (ran : writes.runOn before = (.ok written, middle))
      (inReach : outage.store (.completeStage product.id stage) = none)
      (completed : middle.completeStage product.id product.version stage = .ok reached) :
      FlaggingOutcome outage stage product writes make before
        (.ok (make written reached.1), reached.2)

/-- Marking a stage complete fails and changes nothing, or it is in reach and accepted. -/
theorem Outage.runOn_completeStage (outage : Outage) (id : Int64) (version : Int32) (stage : Stage)
    (store : Store) :
    (∃ cause, (outage.completeStage id version stage).runOn store = (.error cause, store)) ∨
    ∃ reached, outage.store (.completeStage id stage) = .none ∧
      store.completeStage id version stage = .ok reached ∧
        (outage.completeStage id version stage).runOn store = (.ok reached.1, reached.2) := by
  rw [completeStage, runOn_onStore]
  cases inReach : outage.store (.completeStage id stage) with
  | some reason => exact Or.inl ⟨_, rfl⟩
  | none =>
    cases completed : store.completeStage id version stage with
    | error cause => exact Or.inl ⟨cause, rfl⟩
    | ok reached => exact Or.inr ⟨reached, rfl, rfl, rfl⟩

/-- Writing and flagging leads to one of these outcomes. -/
theorem flagging_outcome (outage : Outage) (stage : Stage) (product : Product)
    (writes : Attempt Store StoreError α) (make : α → SyncStatus → β) (before : Store) :
    FlaggingOutcome outage stage product writes make before
      ((outage.flagging stage product writes make).runOn before) := by
  rw [Outage.flagging, runOn_bind]
  rcases ran : writes.runOn before with ⟨cause | written, middle⟩
  · exact .unwritten cause middle ran
  · simp only [runOn_bind_pure]
    rcases outage.runOn_completeStage product.id product.version stage middle with
      ⟨cause, refused⟩ | ⟨reached, inReach, completed, accepted⟩
    · rw [refused]
      exact .unflagged written cause middle ran
    · rw [accepted]
      exact .flagged written middle reached ran inReach completed

/-! ## What is written -/

namespace Outage

variable {before after : Store}

/-- Writing a view succeeds when both operations are in reach, and then the view is stored and the
texts are added. -/
theorem runOn_writeView_ok_iff {count : Nat} :
    (outage.writeView product materialized).runOn before = (.ok count, after) ↔
      outage.store (.upsertView materialized.view.productId) = .none ∧
        outage.store (.mergeHashes product.id) = .none ∧
          (before.upsertView materialized.view).mergeHashes product.id materialized.hashes =
            (count, after) := by
  simp only [writeView, upsertView, mergeHashes, runOn_bind_ok_iff, runOn_onStore_ok_iff]
  constructor
  · rintro ⟨_, _, ⟨viewed, ⟨⟩⟩, merged, ⟨⟩⟩
    exact ⟨viewed, merged, rfl⟩
  · rintro ⟨viewed, merged, written⟩
    exact ⟨(), _, ⟨viewed, rfl⟩, merged, by rw [written]⟩

/-- Inserting images that there may be none of succeeds when there are none or the queue is in
reach. -/
theorem runOn_insertMissing_ok_iff {missing : List ImageRecord} :
    (outage.insertMissing missing).runOn before = (.ok (), after) ↔
      (missing ≠ [] → outage.store .insertImages = .none) ∧
        before.insertImages missing = after := by
  cases missing with
  | nil => simp [insertMissing, Store.insertImages]
  | cons image rest => simp [insertMissing, insertImages, runOn_onStore_ok_iff]

/-- Writing the images of a product succeeds when the queue is in reach, for writing only if an
image is missing. The missing images are queued then. -/
theorem runOn_writeImages_ok_iff {split : List ImageRecord × List ImageRecord} :
    (outage.writeImages product).runOn before = (.ok split, after) ↔
      outage.store (.queuedImages product.id) = .none ∧
        product.splitImages (before.queuedImages product.id) = split ∧
          (split.1 ≠ [] → outage.store .insertImages = .none) ∧
            before.insertImages split.1 = after := by
  rw [writeImages, runOn_bind_ok_iff]
  simp only [queuedImages, runOn_onStore_ok_iff, runOn_bind_ok_iff, runOn_pure]
  constructor
  · rintro ⟨_, _, ⟨inReach, ⟨⟩⟩, _, _, inserted, ⟨⟩⟩
    exact ⟨inReach, rfl, runOn_insertMissing_ok_iff.mp inserted⟩
  · rintro ⟨inReach, rfl, inserted⟩
    exact ⟨_, _, ⟨inReach, rfl⟩, (), _, runOn_insertMissing_ok_iff.mpr inserted, rfl⟩

/-- Storing content succeeds when the operation is in reach. -/
theorem runOn_upsertContent_ok_iff {payload : Payload} :
    (outage.upsertContent payload).runOn before = (.ok (), after) ↔
      outage.store (.upsertContent payload.1.productId) = .none ∧
        before.upsertContent payload = after := by
  simp [upsertContent, runOn_onStore_ok_iff]

end Outage

/-! ## What is not written -/

/-- A store without the output of a stage. -/
def Store.besides (stage : Stage) (store : Store) : Store :=
  match stage with
  | .view => { store with views := ∅, records := ∅ }
  | .image => { store with images := [] }
  | .content => { store with contents := ∅ }

/-- Without the output of a stage the products are the same. -/
@[simp] theorem Store.products_besides (stage : Stage) (store : Store) :
    (store.besides stage).products = store.products := by
  cases stage <;> rfl

namespace Outage

/-- A store operation leaves alone what it leaves alone when it is in reach. -/
theorem leaves_onStore {call : StoreCall} {act : Store → Except StoreError α × Store}
    {seen : Store → β} (kept : ∀ store, seen (act store).2 = seen store) :
    (outage.onStore call act).Leaves seen := by
  intro store
  rw [runOn_onStore]
  cases outage.store call with
  | some reason => rfl
  | none => exact kept store

/-- Writing a view leaves everything else alone. -/
theorem leaves_writeView (outage : Outage) (product : Product) (materialized : Materialized) :
    (outage.writeView product materialized).Leaves (Store.besides .view) := by
  apply Leaves.bind
  · exact leaves_onStore fun _ => rfl
  · exact fun _ _ => leaves_onStore fun _ => rfl

/-- Writing images leaves everything else alone. -/
theorem leaves_writeImages (outage : Outage) (product : Product) :
    (outage.writeImages product).Leaves (Store.besides .image) := by
  apply Leaves.bind
  · exact leaves_onStore fun _ => rfl
  intro queued _
  apply Leaves.bind
  · rw [insertMissing]
    split
    case isTrue => exact leaves_ofExcept _ (.ok ())
    case isFalse => exact leaves_onStore fun _ => rfl
  · exact fun _ _ => leaves_ofExcept _ (.ok (product.splitImages queued))

/-- Storing content leaves everything else alone. -/
theorem leaves_upsertContent (outage : Outage) (payload : Payload) :
    (outage.upsertContent payload).Leaves (Store.besides .content) :=
  leaves_onStore fun _ => rfl

end Outage

/-! ## Where it happens -/

/-- Flagging is confined to the product when the writing is. -/
theorem Attempt.Confined.flagging {writes : Attempt Store StoreError α}
    (confined : writes.Confined Store.dossier product.id) (outage : Outage) (stage : Stage)
    (make : α → SyncStatus → β) :
    (outage.flagging stage product writes make).Confined Store.dossier product.id := by
  apply confined.bind
  intro written _
  apply (outage.confined_completeStage product.id product.version stage).bind
  intro status _
  exact confined_ofExcept _ _ (.ok (make written status))

/-- Writing the view of a product is confined to the product. -/
theorem Outage.confined_writeView (outage : Outage)
    (owner : materialized.view.productId = product.id) :
    (outage.writeView product materialized).Confined Store.dossier product.id := by
  have viewed := outage.confined_upsertView materialized.view
  rw [owner] at viewed
  apply viewed.bind
  intro _ _
  exact outage.confined_mergeHashes product.id materialized.hashes

/-- Inserting images of a product, if there are any, is confined to the product. -/
theorem Outage.confined_insertMissing (outage : Outage) {id : Int64} {missing : List ImageRecord}
    (own : ∀ image ∈ missing, image.productId = id) :
    (outage.insertMissing missing).Confined Store.dossier id := by
  rw [insertMissing]
  split
  case isTrue => exact confined_ofExcept _ _ (.ok ())
  case isFalse => exact outage.confined_insertImages own

/-- Writing the images of a product is confined to the product. -/
theorem Outage.confined_writeImages (outage : Outage) (product : Product) :
    (outage.writeImages product).Confined Store.dossier product.id := by
  apply (outage.confined_queuedImages product.id).bind
  intro queued _
  have own : ∀ image ∈ (product.splitImages queued).1, image.productId = product.id := by
    intro image missing
    exact Product.productId_of_mem_imageRecords (Product.mem_imageRecords_of_missing missing)
  apply (outage.confined_insertMissing own).bind
  intro _ _
  exact confined_ofExcept _ _ (.ok (product.splitImages queued))

/-- Publishing a product is confined to the product. -/
theorem confined_publish (coding : Coding) (outage : Outage) (product : Product) :
    (publish coding outage product).Confined Store.dossier product.id := by
  rw [publish_eq_flagging]
  apply ((confined_ofExcept _ _ (product.materialize coding)).mapError ViewError.integrity).bind
  intro materialized yielded
  have formed := yielded.of_mapError.result_eq
  have owner := (product.materialize_ok formed).2.1
  exact ((outage.confined_writeView owner).flagging _ _ _).mapError _

/-- Queueing the images of a product is confined to the product. -/
theorem confined_queueImages (outage : Outage) (product : Product) :
    (queueImages outage product).Confined Store.dossier product.id := by
  rw [queueImages_eq_flagging]
  exact ((outage.confined_writeImages product).flagging _ _ _).mapError _

/-- Storing a payload of a product is confined to the product. -/
theorem confined_storePayload (outage : Outage) {payload : Payload}
    (owner : payload.1.productId = product.id) :
    (storePayload outage product payload).Confined Store.dossier product.id := by
  have stored := outage.confined_upsertContent payload
  rw [owner] at stored
  rw [storePayload_eq_flagging]
  exact (stored.flagging _ _ _).mapError _

end Syndication
