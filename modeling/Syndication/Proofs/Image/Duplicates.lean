import Syndication.Proofs.Image.Growth
import Syndication.Proofs.Store.History

/-!
# Duplicates in the queue

An image is told from others by its key, and queueing passes over the images whose key is queued.
It compares them with the queue only, as the call finds it, and not with each other. So a key is
queued twice by exactly those calls that bring it twice while it is not queued yet, and never by
anything else.

The image stage queues the images of a product, whose keys differ, and so a pipeline never queues a
key twice.
-/

namespace Syndication

open Attempt

/-- Marking a stage complete leaves the queue alone. -/
theorem Outage.images_completeStage (outage : Outage) (id : Int64) (expected : Int32)
    (stage : Stage) : (outage.completeStage id expected stage).Leaves Store.images := by
  apply leaves_onStore
  intro store
  cases completed : store.completeStage id expected stage with
  | error cause => rfl
  | ok reached =>
    obtain ⟨_, _, _, _, changed⟩ := Store.completeStage_ok completed
    show reached.2.images = store.images
    rw [changed]

namespace StoreOperation

variable {store : Store}

/-- An operation queues no key twice. That can go wrong only when it queues images and is in reach:
the keys that it brings and that are not queued yet have to be different. -/
def QueuesOnce (outage : Outage) (store : Store) : StoreOperation → Prop
  | .insertImages records => outage.store .insertImages = none →
    ((records.map ImageRecord.key).filter fun key => !store.imageKeys.contains key).Nodup
  | _ => True

/-- After an operation the keys in the queue are different exactly when they were before and the
operation queues none twice. -/
theorem nodup_perform_iff (operation : StoreOperation) (outage : Outage) (store : Store) :
    (operation.perform outage store).imageKeys.Nodup ↔
      store.imageKeys.Nodup ∧ operation.QueuesOnce outage store := by
  have alone (kept : (operation.perform outage store).images = store.images) :
      (operation.perform outage store).imageKeys.Nodup ↔ store.imageKeys.Nodup ∧ True := by
    rw [Store.imageKeys, kept, and_true]
  cases operation with
  | insertImages records =>
    rw [perform, Outage.insertImages, Outage.runOn_onStore, QueuesOnce]
    cases inReach : outage.store .insertImages with
    | some reason => simp
    | none =>
      simp only [Store.imageKeys_insertImages, List.nodup_append, forall_const]
      constructor
      · rintro ⟨before, added, _⟩
        exact ⟨before, added⟩
      · rintro ⟨before, added⟩
        refine ⟨before, added, ?_⟩
        rintro key queued _ new rfl
        simpa [queued] using (List.mem_filter.mp new).2
  | assignImage id url tripImageId =>
    rw [perform, Store.imageKeys_assignImage]
    exact (and_true _).to_iff.symm
  | completeStage id expected stage =>
    exact alone (outage.images_completeStage id expected stage store)
  | findProducts | getProduct | upsertProduct | upsertView | mergeHashes | replaceHashes
  | loadRecords | queuedImages | upsertContent =>
    exact alone (Outage.leaves_onStore (fun _ => rfl) store)

/-- The store after some operations, each with an outage of its own. -/
def performAll (run : List (StoreOperation × Outage)) (store : Store) : Store :=
  run.foldl (fun store step => step.1.perform step.2 store) store

/-- Every operation of a run queues no key twice in the store that it finds. -/
def AllQueueOnce : List (StoreOperation × Outage) → Store → Prop
  | [], _ => True
  | (operation, outage) :: rest, store =>
    operation.QueuesOnce outage store ∧ AllQueueOnce rest (operation.perform outage store)

/-- After a run the keys in the queue are different exactly when they were before and every
operation queues none twice.

Induct over the operations. -/
theorem nodup_performAll_iff (run : List (StoreOperation × Outage)) (store : Store) :
    (performAll run store).imageKeys.Nodup ↔ store.imageKeys.Nodup ∧ AllQueueOnce run store := by
  induction run generalizing store with
  | nil => exact (and_true _).to_iff.symm
  | cons step rest inductionHypothesis =>
    obtain ⟨operation, outage⟩ := step
    show (performAll rest (operation.perform outage store)).imageKeys.Nodup ↔ _
    rw [inductionHypothesis, nodup_perform_iff, and_assoc]
    rfl

/-- Which runs of store operations on an empty store leave no duplicate in the queue: exactly those
in which no call queues images with a new key twice. The runs of a pipeline never leave one. -/
theorem queue_distinct_iff {γ : Type} (run : List (StoreOperation × Outage))
    (pipeline : Pipeline γ) (operations : List (Operation γ)) (outside : γ) :
    ((performAll run .empty).imageKeys.Nodup ↔ AllQueueOnce run .empty) ∧
      (Operation.worldAfter pipeline operations outside).store.imageKeys.Nodup := by
  constructor
  · rw [nodup_performAll_iff]
    exact and_iff_right List.nodup_nil
  · have grown : Store.empty.Grown (Operation.CameIn operations) _ :=
      Operation.grown_of_run pipeline (fun _ cameIn => cameIn) outside
    exact grown.lengthened.nodup List.nodup_nil

end StoreOperation

/-- A call that queues the image of the tour twice leaves its key in the queue twice. -/
theorem Tour.image_queued_twice : ¬∀ run : List (StoreOperation × Outage),
    (StoreOperation.performAll run .empty).imageKeys.Nodup := by
  intro distinct
  let image : ImageRecord := ⟨7, "https://images.example/7", "MAIN", none⟩
  have queued := distinct [(.insertImages [image, image], Outage.none)]
  exact absurd queued (by decide +kernel)

end Syndication
