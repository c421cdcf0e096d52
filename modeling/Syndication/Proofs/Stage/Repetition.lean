import Mathlib.Logic.Relation
import Syndication.Proofs.Content.Sources
import Syndication.Proofs.Stage.Completion
import Syndication.Proofs.Stage.Conclusion

/-!
# Repeating a stage

A stage that went through on a product may be run on it again: by a caller who did not see the
answer, or after a restart. What it writes is in the store already, and its flag is set, so all of
it is absorbed. The store is left exactly as it is, and the answer tells that nothing was new.

In between the product may have come further, and other products may have been worked on by later
stages. `Pipeline.Interlude` is a step of what may happen, and `Store.Continues` is what all of it
preserves: products are only promoted, and the output of the stage is retained.
-/

namespace Syndication

open Attempt

section Repetition

variable {γ α β : Type} {coding : Coding} {outage : Outage} {product : Product}
  {stage later : Stage} {materialized : Materialized} {status : SyncStatus}
  {store before after : Store} {id : Int64}

/-! ## Absorbed operations -/

/-- Inserting what a map holds already changes nothing. -/
theorem insert_of_getElem?_eq_some {value : α} {map : Std.ExtTreeMap Int64 α}
    (present : map[id]? = some value) : map.insert id value = map := by
  apply Std.ExtTreeMap.ext_getElem?
  intro key
  rw [Std.ExtTreeMap.getElem?_insert]
  split
  case isTrue same =>
    rw [← Std.compare_eq_iff_eq.mp same, present]
  case isFalse => rfl

/-- Texts that were added to a record are absorbed by it. -/
theorem PluHashes.union_union_right (record hashes : PluHashes) :
    record ∪ hashes ∪ hashes = record ∪ hashes := by
  apply Std.ExtTreeMap.ext_getElem?
  intro code
  simp only [Std.ExtTreeMap.getElem?_union]
  cases hashes[code]? <;> rfl

namespace Store

/-- A view that is stored is absorbed. -/
theorem upsertView_of_stored {view : ProductView}
    (stored : store.views[view.productId]? = some view) : store.upsertView view = store := by
  rw [upsertView, insert_of_getElem?_eq_some stored]

/-- Texts that the record of a product absorbs are not counted as new and change nothing. -/
theorem mergeHashes_of_recorded {record hashes : PluHashes}
    (recorded : store.records[id]? = some record) (absorbed : record ∪ hashes = record) :
    store.mergeHashes id hashes = (0, store) := by
  have held : store.record id = record := by
    rw [Store.record, Std.ExtTreeMap.getD_eq_getD_getElem?, recorded]
    rfl
  rw [mergeHashes, held, absorbed, insert_of_getElem?_eq_some recorded, Nat.sub_self]

/-- Content that is stored is absorbed. -/
theorem upsertContent_of_stored {payload : Payload}
    (stored : store.contents[payload.1.productId]? = some payload) :
    store.upsertContent payload = store := by
  rw [upsertContent, insert_of_getElem?_eq_some stored]

/-- A stage that is complete on a product of the expected version is marked complete without any
change. -/
theorem completeStage_of_complete {stored : Product} (found : store.products[id]? = some stored)
    (flagged : stored.status.isComplete stage = true) :
    store.completeStage id stored.version stage = .ok (stored.status, store) := by
  have kept : stored.status.complete stage = .ok stored.status := by
    rw [SyncStatus.complete, if_pos flagged]
  simp only [completeStage, found, if_pos, kept]
  rw [insert_of_getElem?_eq_some found]

end Store

/-- When the keys of all images are queued, none is missing. -/
theorem Product.splitImages_of_queued {queued : List ImageRecord}
    (present : ∀ image ∈ product.imageRecords, image.key ∈ queued.map ImageRecord.key) :
    product.splitImages queued = ([], product.imageRecords) := by
  rw [splitImages, List.partition_eq_filter_filter]
  apply Prod.ext
  · apply List.filter_eq_nil_iff.mpr
    intro image member
    simpa using present image member
  · apply List.filter_eq_self.mpr
    intro image member
    simpa using present image member

/-! ## A stage that went through -/

/-- A stage is complete on the version of a product that was processed, and its flag can be set
again. -/
structure Completed (outage : Outage) (stage : Stage) (product : Product) (store : Store)
    (status : SyncStatus) : Prop where
  inReach : outage.store (.completeStage product.id stage) = none
  stored : ∃ stored, store.products[product.id]? = some stored ∧
    stored.version = product.version ∧ stored.status = status
  flagged : status.isComplete stage = true

/-- The product stands in the store with the status reached. -/
theorem Completed.stands (completed : Completed outage stage product store status) :
    store.Stands product.id status := by
  obtain ⟨stored, found, _, reached⟩ := completed.stored
  exact ⟨stored, found, reached⟩

/-- A stage that is complete stays complete when products are promoted, and no flag is lost. -/
theorem Completed.promoted (completed : Completed outage stage product before status)
    (promotes : before.Promotes after) :
    ∃ reached, Completed outage stage product after reached ∧
      ∀ other, status.isComplete other = true → reached.isComplete other = true := by
  obtain ⟨stored, found, version, rfl⟩ := completed.stored
  rcases promotes product.id with ⟨absent, _⟩ | ⟨earlier, reached, foundThen, foundNow, kept⟩
  · rw [found] at absent
    cases absent
  · cases found.symm.trans foundThen
    refine ⟨reached, ⟨completed.inReach, ?_, kept stage completed.flagged⟩, kept⟩
    exact ⟨_, foundNow, version, rfl⟩

/-- Writing and flagging that succeeded has written, and the stage is complete since. -/
theorem completed_of_flagging {writes : Attempt Store StoreError α} {make : α → SyncStatus → β}
    {outcome : β}
    (ran : (outage.flagging stage product writes make).runOn before = (.ok outcome, after)) :
    ∃ written middle status, writes.runOn before = (.ok written, middle) ∧
      outcome = make written status ∧ Completed outage stage product after status ∧
        ∀ other, middle.Retains after other := by
  have ended := flagging_outcome outage stage product writes make before
  rw [ran] at ended
  cases ended with
  | flagged written middle reached wrote inReach completed =>
    obtain ⟨stored, _, version, advanced, changed⟩ := Store.completeStage_ok completed
    refine ⟨written, middle, reached.1, wrote, rfl, ⟨inReach, ?_, ?_⟩, ?_⟩
    · rw [changed]
      exact ⟨_, Std.ExtTreeMap.getElem?_insert_self, version, rfl⟩
    · exact SyncStatus.isComplete_of_complete advanced
    · exact Store.retains_completeStage completed

/-- Where a stage is complete and its writing is absorbed, writing and flagging is absorbed. -/
theorem Completed.flagging {writes : Attempt Store StoreError α} {written : α}
    (completed : Completed outage stage product store status)
    (absorbed : writes.runOn store = (.ok written, store)) (make : α → SyncStatus → β) :
    (outage.flagging stage product writes make).runOn store =
      (.ok (make written status), store) := by
  obtain ⟨stored, found, version, rfl⟩ := completed.stored
  have again := Store.completeStage_of_complete found completed.flagged
  rw [version] at again
  rw [Outage.flagging, runOn_bind, absorbed]
  simp only [runOn_bind_pure, Outage.completeStage, Outage.runOn_onStore, completed.inReach, again]
  rfl

/-! ## What happens in between -/

namespace Store

/-- What happened to a store promoted products and retained the output of a stage. -/
structure Continues (stage : Stage) (before after : Store) : Prop where
  promotes : before.Promotes after
  retained : before.Retains after stage

/-- Nothing has to happen. -/
theorem Continues.refl (stage : Stage) (store : Store) : store.Continues stage store :=
  ⟨.refl store, .refl store stage⟩

/-- One thing may happen after the other. -/
theorem Continues.trans {middle : Store} (first : before.Continues stage middle)
    (second : middle.Continues stage after) : before.Continues stage after where
  promotes := first.promotes.trans second.promotes
  retained := by
    have retained := first.retained
    have retainedThen := second.retained
    cases stage with
    | view =>
      exact ⟨retainedThen.1.trans retained.1, retainedThen.2.trans retained.2⟩
    | image => exact fun key member => retainedThen key (retained key member)
    | content => exact Eq.trans retainedThen retained

/-- Products that are the same are promoted. -/
theorem Promotes.of_products_eq (same : after.products = before.products) :
    before.Promotes after := by
  intro id
  rw [same]
  exact Promotes.refl before id

/-- What leaves everything besides the output of one stage alone retains that of another. -/
theorem Retains.of_besides (same : after.besides later = before.besides later)
    (different : stage ≠ later) : before.Retains after stage := by
  have views := congrArg Store.views same
  have records := congrArg Store.records same
  have images := congrArg Store.images same
  have contents := congrArg Store.contents same
  cases later with
  | view => exact .of_eq (fun own => absurd own different) (fun _ => images) fun _ => contents
  | image =>
    exact .of_eq (fun _ => ⟨views, records⟩) (fun own => absurd own different) fun _ => contents
  | content =>
    exact .of_eq (fun _ => ⟨views, records⟩) (fun _ => images) fun own => absurd own different

/-- Marking a stage complete continues every stage. -/
theorem continues_completeStage {version : Int32} {reached : SyncStatus × Store}
    (completed : store.completeStage id version later = .ok reached) (stage : Stage) :
    store.Continues stage reached.2 where
  retained := retains_completeStage completed stage
  promotes := by
    obtain ⟨product, found, _, advanced, changed⟩ := completeStage_ok completed
    intro key
    by_cases own : key = id
    · subst own
      refine Or.inr ⟨product, reached.1, found, ?_, ?_⟩
      · rw [changed]
        exact Std.ExtTreeMap.getElem?_insert_self
      · exact fun _ flagged => SyncStatus.isComplete_mono_of_complete advanced flagged
    · rw [products_completeStage completed own]
      exact Promotes.refl store key

/-- Queued images keep their keys when identifiers are assigned to them. -/
theorem continues_assignImage (store : Store) (id : Int64) (url tripImageId : String)
    (stage : Stage) : store.Continues stage (store.assignImage id url tripImageId).2 where
  promotes := .of_products_eq rfl
  retained := by
    cases stage with
    | view => exact ⟨rfl, rfl⟩
    | image =>
      intro key member
      show key ∈ (store.assignImage id url tripImageId).2.imageKeys
      rwa [imageKeys_assignImage]
    | content => rfl

end Store

/-- Writing and flagging continues every other stage, whether it succeeds or not. -/
theorem continues_flagging {writes : Attempt Store StoreError α} {make : α → SyncStatus → β}
    (besides : writes.Leaves (Store.besides later)) (different : stage ≠ later) (store : Store) :
    store.Continues stage ((outage.flagging later product writes make).runOn store).2 := by
  have left := besides store
  have continued : store.Continues stage (writes.runOn store).2 := by
    constructor
    · apply Store.Promotes.of_products_eq
      simpa using congrArg Store.products left
    · exact .of_besides left different
  have outcome := flagging_outcome outage later product writes make store
  generalize (outage.flagging later product writes make).runOn store = ended at outcome
  cases outcome with
  | unwritten cause after ran =>
    rw [ran] at continued
    exact continued
  | unflagged written cause after ran =>
    rw [ran] at continued
    exact continued
  | flagged written middle reached ran inReach completed =>
    rw [ran] at continued
    exact continued.trans (Store.continues_completeStage completed stage)

namespace Pipeline

variable {pipeline : Pipeline γ}

/-- Processing a product continues the stages before. -/
theorem continues_process (pipeline : Pipeline γ) (outage : Outage) (product : Product)
    (different : stage ≠ later) (world : World γ) :
    world.store.Continues stage ((pipeline.process outage later product).runOn world).2.store := by
  have effect := pipeline.stageEffect_process outage later product world
  generalize ((pipeline.process outage later product).runOn world).2.store = after at effect
  cases effect with
  | idle => exact .refl stage world.store
  | view materialized =>
    exact continues_flagging (outage.leaves_writeView product materialized) different world.store
  | image => exact continues_flagging (outage.leaves_writeImages product) different world.store
  | content payload =>
    exact continues_flagging (outage.leaves_upsertContent payload) different world.store

/-- A step of what may happen between a stage and its repetition: a later stage is run on some
product, with collaborators and an outage of its own, some stage is marked complete, an image is
assigned its identifier, or something happens beside the store. -/
inductive Interlude (pipeline : Pipeline γ) (stage : Stage) (before : World γ) : World γ → Prop
  | process (later : Stage) (beyond : stage.position < later.position)
      (collaborators : Collaborators γ) (outage : Outage) (product : Product) :
      Interlude pipeline stage before
        (({ pipeline with collaborators }.process outage later product).runOn before).2
  | complete (later : Stage) (id : Int64) (version : Int32) (reached : SyncStatus × Store)
      (completed : before.store.completeStage id version later = .ok reached) :
      Interlude pipeline stage before (World.storePart.set before reached.2)
  | assign (id : Int64) (url tripImageId : String) :
      Interlude pipeline stage before
        (World.storePart.set before (before.store.assignImage id url tripImageId).2)
  | beside (after : World γ) (same : after.store = before.store) :
      Interlude pipeline stage before after

/-- Each step continues the stage. -/
theorem Interlude.continues {before after : World γ}
    (step : pipeline.Interlude stage before after) : before.store.Continues stage after.store := by
  cases step with
  | process later beyond collaborators outage product =>
    apply continues_process
    rintro rfl
    exact Nat.lt_irrefl _ beyond
  | complete later id version reached completed =>
    exact Store.continues_completeStage completed stage
  | assign id url tripImageId =>
    exact Store.continues_assignImage before.store id url tripImageId stage
  | beside _ same =>
    rw [same]
    exact .refl stage before.store

/-- So does everything that may happen. -/
theorem Interlude.continues_of_run {before after : World γ}
    (run : Relation.ReflTransGen (pipeline.Interlude stage) before after) :
    before.store.Continues stage after.store := by
  induction run with
  | refl => exact .refl stage before.store
  | tail _ step inductionHypothesis => exact inductionHypothesis.trans step.continues

end Pipeline

/-! ## The three stages -/

/-- A product stands in the store with a status that has all flags of an earlier one. -/
structure Store.Upholds (store : Store) (id : Int64) (earlier status : SyncStatus) : Prop where
  stands : store.Stands id status
  kept : ∀ stage, earlier.isComplete stage = true → status.isComplete stage = true

variable {between : Store}

/-- A view that was published is published again without effect. -/
theorem publish_again {published : Published}
    (ran : (publish coding outage product).runOn before = (.ok published, after))
    (continues : after.Continues .view between) :
    ∃ status, between.Upholds product.id published.status status ∧
      (publish coding outage product).runOn between =
        (.ok ⟨published.materialized, 0, status⟩, between) := by
  rw [publish_eq_flagging] at ran ⊢
  cases formed : product.materialize coding with
  | error cause =>
    rw [formed] at ran
    cases ran
  | ok materialized =>
    rw [formed] at ran
    obtain ⟨count, middle, status, wrote, rfl, completed, retained⟩ :=
      completed_of_flagging (runOn_mapError_ok_iff.mp ran)
    obtain ⟨viewInReach, recordInReach, written⟩ := Outage.runOn_writeView_ok_iff.mp wrote
    obtain rfl : _ = middle := congrArg Prod.snd written
    have views := continues.retained.1.trans (retained .view).1
    have records := continues.retained.2.trans (retained .view).2
    have viewed : between.views[materialized.view.productId]? = some materialized.view := by
      rw [views]
      exact Std.ExtTreeMap.getElem?_insert_self
    have recorded : between.records[product.id]? =
        some (before.record product.id ∪ materialized.hashes) := by
      rw [records]
      exact Std.ExtTreeMap.getElem?_insert_self
    have absorbed : (outage.writeView product materialized).runOn between = (.ok 0, between) := by
      rw [Outage.runOn_writeView_ok_iff, Store.upsertView_of_stored viewed,
        Store.mergeHashes_of_recorded recorded (PluHashes.union_union_right _ _)]
      exact ⟨viewInReach, recordInReach, rfl⟩
    obtain ⟨reached, completedThen, kept⟩ := completed.promoted continues.promotes
    refine ⟨reached, ⟨completedThen.stands, kept⟩, ?_⟩
    exact runOn_mapError_ok_iff.mpr (completedThen.flagging absorbed (Published.mk materialized))

/-- Images that were queued are queued again without effect, and all of them count as queued
already. -/
theorem queueImages_again {outcome : ImageOutcome}
    (ran : (queueImages outage product).runOn before = (.ok outcome, after))
    (continues : after.Continues .image between) :
    ∃ status, between.Upholds product.id outcome.status status ∧
      (queueImages outage product).runOn between =
        (.ok ⟨0, outcome.queued + outcome.alreadyQueued, status⟩, between) := by
  have concluded := concluded_queueImages outage product before
  rw [ran] at concluded
  rw [queueImages_eq_flagging] at ran ⊢
  obtain ⟨split, middle, status, wrote, rfl, completed, _⟩ :=
    completed_of_flagging (runOn_mapError_ok_iff.mp ran)
  obtain ⟨inReach, rfl, _, _⟩ := Outage.runOn_writeImages_ok_iff.mp wrote
  have present : ∀ image ∈ product.imageRecords,
      image.key ∈ (between.queuedImages product.id).map ImageRecord.key := by
    intro image member
    rw [Store.mem_keys_queuedImages (Product.productId_of_mem_imageRecords member)]
    cases concluded with
    | reached _ _ _ _ _ written => exact continues.retained image.key (written image member)
  have absorbed : (outage.writeImages product).runOn between =
      (.ok ([], product.imageRecords), between) := by
    rw [Outage.runOn_writeImages_ok_iff]
    refine ⟨inReach, Product.splitImages_of_queued present, nofun, ?_⟩
    simp [Store.insertImages]
  obtain ⟨reached, completedThen, kept⟩ := completed.promoted continues.promotes
  refine ⟨reached, ⟨completedThen.stands, kept⟩, ?_⟩
  rw [runOn_mapError_ok_iff, completedThen.flagging absorbed]
  simp only [Product.length_splitImages]
  rfl

/-- A payload that was stored is stored again without effect. -/
theorem storePayload_again {payload : Payload} {outcome : ContentOutcome}
    (ran : (storePayload outage product payload).runOn before = (.ok outcome, after))
    (continues : after.Continues .content between) :
    ∃ status, between.Upholds product.id outcome.status status ∧
      (storePayload outage product payload).runOn between =
        (.ok ⟨outcome.units, status⟩, between) := by
  rw [storePayload_eq_flagging] at ran ⊢
  obtain ⟨_, middle, status, wrote, rfl, completed, retained⟩ :=
    completed_of_flagging (runOn_mapError_ok_iff.mp ran)
  obtain ⟨inReach, rfl⟩ := Outage.runOn_upsertContent_ok_iff.mp wrote
  have contents := Eq.trans continues.retained (retained .content)
  have stored : between.contents[payload.1.productId]? = some payload := by
    rw [contents]
    exact Std.ExtTreeMap.getElem?_insert_self
  have absorbed : (outage.upsertContent payload).runOn between = (.ok (), between) := by
    rw [Outage.runOn_upsertContent_ok_iff]
    exact ⟨inReach, Store.upsertContent_of_stored stored⟩
  obtain ⟨reached, completedThen, kept⟩ := completed.promoted continues.promotes
  refine ⟨reached, ⟨completedThen.stands, kept⟩, ?_⟩
  exact runOn_mapError_ok_iff.mpr (completedThen.flagging absorbed _)

namespace Pipeline

variable {pipeline : Pipeline γ}

/-- Content that was syndicated is syndicated again without effect, provided that the collaborators
have no state and that the sources are the same. -/
theorem syndicate_again {before after between : World γ} {outcome : ContentOutcome}
    (stateless : pipeline.collaborators.Stateless)
    (ran : (pipeline.syndicate outage product).runOn before = (.ok outcome, after))
    (continues : after.store.Continues .content between.store)
    (same : between.sources product.id = before.sources product.id) :
    ∃ status later, between.store.Upholds product.id outcome.status status ∧
      (pipeline.syndicate outage product).runOn between = (.ok ⟨outcome.units, status⟩, later) ∧
        later.backend = between.backend := by
  have kept := (pipeline.buildPayload_outcome outage product before).2
  have keptThen := (pipeline.buildPayload_outcome outage product between).2
  have alike := (determined_buildPayload stateless outage product between before same).1
  rw [runOn_syndicate] at ran ⊢
  rcases built : (pipeline.buildPayload outage product).runOn before with
    ⟨failure | payload, middle⟩
  · rw [built] at ran
    cases ran
  · rcases builtThen : (pipeline.buildPayload outage product).runOn between with ⟨result, later⟩
    rw [built] at ran kept alike
    rw [builtThen] at keptThen alike
    obtain rfl : result = .ok payload := alike
    have storedLater : later.store = between.store := congrArg Backend.store keptThen
    simp only [World.runOn_onStore] at ran ⊢
    rcases first : (storePayload outage product payload).runOn middle.store with ⟨told, left⟩
    rw [first] at ran
    cases ran
    obtain ⟨status, upholds, again⟩ := storePayload_again first continues
    rw [storedLater, again]
    refine ⟨status, _, upholds, rfl, ?_⟩
    show Backend.mk between.store later.backend.cache = between.backend
    rw [keptThen]
    rfl

/-- Every stage can be repeated safely. When it went through on a product, and only later stages
and assigned identifiers have come since, running it again goes through too. The services are left
exactly as they were just before, the status told is the stored one and has lost no flag, and what
is told of the output is the same, with nothing counted as new. For the content the collaborators
must have no state, and the sources must be the same as they were the first time. -/
theorem stages_repeat (pipeline : Pipeline γ) (outage : Outage) (product : Product) :
    (∀ (before : Store) (after between : World γ) (published : Published),
      (publish pipeline.coding outage product).runOn before = (.ok published, after.store) →
      Relation.ReflTransGen (pipeline.Interlude .view) after between →
        ∃ status, between.store.Upholds product.id published.status status ∧
          (publish pipeline.coding outage product).runOn between.store =
            (.ok ⟨published.materialized, 0, status⟩, between.store)) ∧
    (∀ (before : Store) (after between : World γ) (outcome : ImageOutcome),
      (queueImages outage product).runOn before = (.ok outcome, after.store) →
      Relation.ReflTransGen (pipeline.Interlude .image) after between →
        ∃ status, between.store.Upholds product.id outcome.status status ∧
          (queueImages outage product).runOn between.store =
            (.ok ⟨0, outcome.queued + outcome.alreadyQueued, status⟩, between.store)) ∧
    ∀ (before after between : World γ) (outcome : ContentOutcome),
      pipeline.collaborators.Stateless →
      (pipeline.syndicate outage product).runOn before = (.ok outcome, after) →
      Relation.ReflTransGen (pipeline.Interlude .content) after between →
      between.sources product.id = before.sources product.id →
        ∃ status later, between.store.Upholds product.id outcome.status status ∧
          (pipeline.syndicate outage product).runOn between =
            (.ok ⟨outcome.units, status⟩, later) ∧
          later.backend = between.backend := by
  refine ⟨?_, ?_, ?_⟩
  · intro before after between published ran run
    exact publish_again ran (Interlude.continues_of_run run)
  · intro before after between outcome ran run
    exact queueImages_again ran (Interlude.continues_of_run run)
  · intro before after between outcome stateless ran run same
    exact syndicate_again stateless ran (Interlude.continues_of_run run) same

end Pipeline

end Repetition

/-! ## The tour once more -/

namespace Tour

/-- The view of the tour is published. -/
def viewed : World Unit :=
  World.storePart.set (ingested plainCoding)
    ((publish plainCoding Outage.none product).runOn (ingested plainCoding).store).2

/-- And its images are queued. -/
def imaged : World Unit :=
  (((pipeline plainCoding).process Outage.none .image product).runOn viewed).2

/-- Once its images are queued, publishing the view of the tour once more gives no new code, takes
no flag back and changes nothing. -/
theorem view_published_again :
    ∃ materialized, (publish plainCoding Outage.none product).runOn imaged.store =
      (.ok ⟨materialized, 0, .imageReady⟩, imaged.store) := by
  have succeeded : ((publish plainCoding Outage.none product).runOn
      (ingested plainCoding).store).1.isOk = true := by decide +kernel
  cases result : ((publish plainCoding Outage.none product).runOn
      (ingested plainCoding).store).1 with
  | error cause =>
    rw [result] at succeeded
    cases succeeded
  | ok published =>
    have queued : (pipeline plainCoding).Interlude .view viewed imaged :=
      .process .image (by decide) collaborators Outage.none product
    obtain ⟨status, upholds, again⟩ :=
      ((pipeline plainCoding).stages_repeat Outage.none product).1 (ingested plainCoding).store
        viewed imaged published (Prod.ext result rfl) (.single queued)
    obtain ⟨stored, found, rfl⟩ := upholds.stands
    have reached : imaged.store.products[product.id]?.map Product.status = some .imageReady := by
      decide +kernel
    rw [found] at reached
    have status : stored.status = .imageReady := Option.some.inj reached
    rw [status] at again
    exact ⟨published.materialized, again⟩

end Tour

end Syndication
