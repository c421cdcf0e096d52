import Syndication.Proofs.Attempt.Confinement
import Syndication.Proofs.Stage.Agreement

/-!
# Dossiers

What a store holds under the identifier of one product is its dossier: the product, its view, its
record, its queued images and its content. Each operation of the store that a stage uses works on
one dossier. It depends on this dossier alone and leaves the others as they are, which makes the
operation confined to an identifier.
-/

namespace Syndication

/-- Everything that is held under one identifier. -/
structure Dossier where
  product? : Option Product
  view? : Option ProductView
  record? : Option PluHashes
  queue : List ImageRecord
  content? : Option Payload

namespace Store

/-- What a store holds under an identifier. -/
def dossier (id : Int64) (store : Store) : Dossier where
  product? := store.products[id]?
  view? := store.views[id]?
  record? := store.records[id]?
  queue := store.queuedImages id
  content? := store.contents[id]?

variable {store first second : Store} {id other : Int64}

/-- The published texts of a product are part of its dossier. -/
theorem record_eq_of_dossier (store : Store) (id : Int64) :
    store.record id = (store.dossier id).record?.getD ∅ := by
  rw [record, Std.ExtTreeMap.getD_eq_getD_getElem?]
  rfl

/-- Products with the same dossier have the same record. -/
theorem record_congr (same : first.dossier id = second.dossier id) :
    first.record id = second.record id := by
  rw [record_eq_of_dossier, same, record_eq_of_dossier]

/-! ## Operations on dossiers -/

/-- Storing a view changes the dossier of its product. -/
theorem dossier_upsertView (store : Store) (view : ProductView) (id : Int64) :
    (store.upsertView view).dossier id =
      if view.productId = id then { store.dossier id with view? := some view }
      else store.dossier id := by
  by_cases own : view.productId = id
  · subst own
    simp [dossier, upsertView, queuedImages]
  · simp [dossier, upsertView, queuedImages, Std.ExtTreeMap.getElem?_insert, own]

/-- Adding texts changes the dossier of the product that they are published for. -/
theorem dossier_mergeHashes (store : Store) (owner : Int64) (hashes : PluHashes) (id : Int64) :
    (store.mergeHashes owner hashes).2.dossier id =
      if owner = id then { store.dossier id with record? := some (store.record id ∪ hashes) }
      else store.dossier id := by
  by_cases own : owner = id
  · subst own
    simp [dossier, mergeHashes, queuedImages]
  · simp [dossier, mergeHashes, queuedImages, Std.ExtTreeMap.getElem?_insert, own]

/-- Storing content changes the dossier of its product. -/
theorem dossier_upsertContent (store : Store) (payload : Payload) (id : Int64) :
    (store.upsertContent payload).dossier id =
      if payload.1.productId = id then { store.dossier id with content? := some payload }
      else store.dossier id := by
  by_cases own : payload.1.productId = id
  · subst own
    simp [dossier, upsertContent, queuedImages]
  · simp [dossier, upsertContent, queuedImages, Std.ExtTreeMap.getElem?_insert, own]

/-- An image of a product is queued exactly when its key is among those of the images queued for
the product. -/
theorem mem_keys_queuedImages {image : ImageRecord} (own : image.productId = id) :
    image.key ∈ (store.queuedImages id).map ImageRecord.key ↔
      image.key ∈ store.images.map ImageRecord.key := by
  simp only [queuedImages, List.mem_map, List.mem_filter, beq_iff_eq]
  constructor
  · rintro ⟨queued, ⟨member, _⟩, same⟩
    exact ⟨queued, member, same⟩
  · rintro ⟨queued, member, same⟩
    exact ⟨queued, ⟨member, (congrArg Prod.fst same).trans own⟩, same⟩

/-- Queueing images of a product adds to its queue those whose key is not there. -/
theorem queuedImages_insertImages {records : List ImageRecord}
    (own : ∀ image ∈ records, image.productId = id) (store : Store) (other : Int64) :
    (store.insertImages records).queuedImages other =
      if id = other then
        store.queuedImages id ++ records.filter fun image =>
          image.key ∉ (store.queuedImages id).map ImageRecord.key
      else store.queuedImages other := by
  rw [queuedImages, insertImages, List.filter_append, List.filter_filter]
  by_cases same : id = other
  · subst same
    rw [if_pos rfl]
    refine congrArg (store.queuedImages id ++ ·) (List.filter_congr fun image member => ?_)
    rw [decide_not, decide_eq_decide.mpr (mem_keys_queuedImages (own image member)),
      List.contains_eq_mem, beq_iff_eq.mpr (own image member), Bool.true_and]
  · rw [if_neg same]
    have none : (records.filter fun image => (image.productId == other) &&
        !(store.images.map ImageRecord.key).contains image.key) = [] := by
      refine List.filter_eq_nil_iff.mpr fun image member => ?_
      simp [own image member, same]
    rw [none, List.append_nil]
    rfl

/-- Queueing images of a product changes the dossier of the product. -/
theorem dossier_insertImages {records : List ImageRecord}
    (own : ∀ image ∈ records, image.productId = id) (store : Store) (other : Int64) :
    (store.insertImages records).dossier other =
      if id = other then
        { store.dossier id with
          queue := store.queuedImages id ++ records.filter fun image =>
            image.key ∉ (store.queuedImages id).map ImageRecord.key }
      else store.dossier other := by
  rw [dossier, queuedImages_insertImages own]
  split
  case isTrue same =>
    subst same
    rfl
  case isFalse => rfl

/-- With the same product stored, marking a stage complete is refused for the same reason, or
reaches the same status. -/
theorem completeStage_congr (version : Int32) (stage : Stage)
    (same : first.products[id]? = second.products[id]?) :
    (∃ cause, first.completeStage id version stage = .error cause ∧
      second.completeStage id version stage = .error cause) ∨
    ∃ status left right, first.completeStage id version stage = .ok (status, left) ∧
      second.completeStage id version stage = .ok (status, right) := by
  simp only [completeStage, same]
  cases second.products[id]? with
  | none => exact Or.inl ⟨_, rfl, rfl⟩
  | some product =>
    by_cases current : product.version = version
    · simp only [if_pos current]
      cases product.status.complete stage with
      | error cause => exact Or.inl ⟨_, rfl, rfl⟩
      | ok status => exact Or.inr ⟨status, _, _, rfl, rfl⟩
    · simp only [if_neg current]
      exact Or.inl ⟨_, rfl, rfl⟩

/-- Marking a stage complete changes the status in the dossier of its product. -/
theorem dossier_completeStage {version : Int32} {stage : Stage} {reached : SyncStatus × Store}
    (completed : store.completeStage id version stage = .ok reached) (other : Int64) :
    reached.2.dossier other =
      if id = other then
        { store.dossier id with
          product? := store.products[id]?.map fun product => { product with status := reached.1 } }
      else store.dossier other := by
  obtain ⟨product, found, _, _, stored⟩ := completeStage_ok completed
  rw [stored]
  by_cases same : id = other
  · subst same
    simp [dossier, queuedImages, found]
  · simp [dossier, queuedImages, Std.ExtTreeMap.getElem?_insert, same]

end Store

/-! ## Confined operations -/

namespace Outage

open Attempt

variable {outage : Outage} {id : Int64}

/-- A store operation is confined to a dossier when what it does is, if it is in reach. -/
theorem confined_onStore {α : Type} {call : StoreCall} {act : Store → Except StoreError α × Store}
    (determined : ∀ first second : Store, first.dossier id = second.dossier id →
      (act first).1 = (act second).1 ∧ (act first).2.dossier id = (act second).2.dossier id)
    (elsewhere : ∀ (store : Store) (other : Int64), other ≠ id →
      (act store).2.dossier other = store.dossier other) :
    (outage.onStore call act).Confined Store.dossier id := by
  constructor
  case determined =>
    intro first second same
    rw [runOn_onStore, runOn_onStore]
    cases outage.store call with
    | some reason => exact ⟨rfl, same⟩
    | none => exact determined first second same
  case elsewhere =>
    intro other different store
    rw [runOn_onStore]
    cases outage.store call with
    | some reason => rfl
    | none => exact elsewhere store other different

/-- Storing a view is confined to its product. -/
theorem confined_upsertView (outage : Outage) (view : ProductView) :
    (outage.upsertView view).Confined Store.dossier view.productId := by
  apply confined_onStore
  · intro first second same
    simp [Store.dossier_upsertView, same]
  · intro store other different
    simp [Store.dossier_upsertView, Ne.symm different]

/-- Adding texts is confined to the product that they are published for. -/
theorem confined_mergeHashes (outage : Outage) (id : Int64) (hashes : PluHashes) :
    (outage.mergeHashes id hashes).Confined Store.dossier id := by
  apply confined_onStore
  · intro first second same
    constructor
    · simp [Store.mergeHashes, Store.record_congr same]
    · simp [Store.dossier_mergeHashes, Store.record_congr same, same]
  · intro store other different
    simp [Store.dossier_mergeHashes, Ne.symm different]

/-- Reading the queue is confined to the product. -/
theorem confined_queuedImages (outage : Outage) (id : Int64) :
    (outage.queuedImages id).Confined Store.dossier id := by
  apply confined_onStore
  · intro first second same
    exact ⟨congrArg (Except.ok ∘ Dossier.queue) same, same⟩
  · exact fun _ _ _ => rfl

/-- Queueing images of a product is confined to the product. -/
theorem confined_insertImages (outage : Outage) {records : List ImageRecord}
    (own : ∀ image ∈ records, image.productId = id) :
    (outage.insertImages records).Confined Store.dossier id := by
  apply confined_onStore
  · intro first second same
    have queued : first.queuedImages id = second.queuedImages id := congrArg Dossier.queue same
    simp [Store.dossier_insertImages own, queued, same]
  · intro store other different
    simp [Store.dossier_insertImages own, Ne.symm different]

/-- Storing content is confined to its product. -/
theorem confined_upsertContent (outage : Outage) (payload : Payload) :
    (outage.upsertContent payload).Confined Store.dossier payload.1.productId := by
  apply confined_onStore
  · intro first second same
    simp [Store.dossier_upsertContent, same]
  · intro store other different
    simp [Store.dossier_upsertContent, Ne.symm different]

/-- Marking a stage complete is confined to the product. Whether it is refused is decided by the
stored product. -/
theorem confined_completeStage (outage : Outage) (id : Int64) (version : Int32) (stage : Stage) :
    (outage.completeStage id version stage).Confined Store.dossier id := by
  apply confined_onStore
  · intro first second same
    have found : first.products[id]? = second.products[id]? := congrArg Dossier.product? same
    rcases Store.completeStage_congr version stage found with
      ⟨cause, refused, refusedThen⟩ | ⟨status, left, right, completed, completedThen⟩
    · rw [refused, refusedThen]
      exact ⟨rfl, same⟩
    · rw [completed, completedThen]
      refine ⟨rfl, ?_⟩
      simp only
      rw [Store.dossier_completeStage completed, Store.dossier_completeStage completedThen,
        if_pos rfl, if_pos rfl, same, found]
  · intro store other different
    cases completed : store.completeStage id version stage with
    | error cause => rfl
    | ok reached =>
      rw [Store.dossier_completeStage completed, if_neg (Ne.symm different)]

end Outage

end Syndication
