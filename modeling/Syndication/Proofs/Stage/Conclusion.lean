import Syndication.Proofs.Stage.Flagging

/-!
# How a stage ends

Whatever is out of reach, a stage moves no status unless it succeeds, since the flag comes last. A
failure can leave output behind, but only in the dossier of the product, and none at all when the
failure lies with the product: a product that cannot be expanded and a payload that cannot be built
are met before anything is written. A success means that the flag is set, that the status told is
the stored one, and that the output is there.

`Store.Concluded` says this for any stage. That it holds is shown once, for writing and flagging.
-/

namespace Syndication

open Attempt

variable {γ ε ε' α β : Type} {coding : Coding} {outage : Outage} {product : Product} {stage : Stage}
  {materialized : Materialized} {payload : Payload} {before : Store} {id : Int64}

namespace Store

/-- A product is stored under an identifier and has a status. -/
def Stands (store : Store) (id : Int64) (status : SyncStatus) : Prop :=
  ∃ product, store.products[id]? = some product ∧ product.status = status

/-- How a stage ends that works for one identifier: the result, and the store afterwards. What is
held under other identifiers is as before in any case. -/
inductive Concluded (stage : Stage) (id : Int64) (status : α → SyncStatus)
    (output : α → Store → Prop) (before : Store) : Except ε α × Store → Prop
  /-- It fails, and no product is different. -/
  | failed (cause : ε) (after : Store)
      (elsewhere : ∀ other, other ≠ id → after.dossier other = before.dossier other)
      (kept : after.products = before.products) :
      Concluded stage id status output before (.error cause, after)
  /-- It succeeds: the status told is stored and has the flag, and the output is there. -/
  | reached (outcome : α) (after : Store)
      (elsewhere : ∀ other, other ≠ id → after.dossier other = before.dossier other)
      (stands : after.Stands id (status outcome))
      (flagged : (status outcome).isComplete stage = true)
      (written : output outcome after) :
      Concluded stage id status output before (.ok outcome, after)

/-- A stage that fails without doing anything. -/
theorem Concluded.idle {status : α → SyncStatus} {output : α → Store → Prop} (cause : ε) :
    before.Concluded stage id status output (.error cause, before) :=
  .failed cause before (fun _ _ => rfl) rfl

/-- The output may be described in other words. -/
theorem Concluded.weaken {status : α → SyncStatus} {output output' : α → Store → Prop}
    {ended : Except ε α × Store} (concluded : before.Concluded stage id status output ended)
    (described : ∀ outcome after, output outcome after → output' outcome after) :
    before.Concluded stage id status output' ended := by
  cases concluded with
  | failed cause after elsewhere kept => exact .failed cause after elsewhere kept
  | reached outcome after elsewhere stands flagged written =>
    exact .reached outcome after elsewhere stands flagged (described outcome after written)

/-- What the error is does not matter to how a stage ends. -/
theorem Concluded.mapError {status : α → SyncStatus} {output : α → Store → Prop}
    {attempt : Attempt Store ε α} {wrap : ε → ε'}
    (concluded : before.Concluded stage id status output (attempt.runOn before)) :
    before.Concluded stage id status output ((attempt.mapError wrap).runOn before) := by
  rw [runOn_mapError]
  generalize attempt.runOn before = ended at concluded
  cases concluded with
  | failed cause after elsewhere kept => exact .failed _ after elsewhere kept
  | reached outcome after elsewhere stands flagged written =>
    exact .reached outcome after elsewhere stands flagged written

end Store

/-! ## Writing and flagging -/

/-- Writing and flagging ends like this, provided that the writing is confined to the product and
writes nothing but the output of the stage, that the status told is the one reached, and that the
output is there once writing and flagging have succeeded. -/
theorem concluded_flagging {writes : Attempt Store StoreError α} {make : α → SyncStatus → β}
    {status : β → SyncStatus} {output : β → Store → Prop} (outage : Outage)
    (confined : writes.Confined Store.dossier product.id)
    (besides : writes.Leaves (Store.besides stage))
    (told : ∀ written reached, status (make written reached) = reached)
    (present : ∀ written middle reached, writes.runOn before = (.ok written, middle) →
      middle.completeStage product.id product.version stage = .ok reached →
        output (make written reached.1) reached.2) :
    before.Concluded stage product.id status output
      ((outage.flagging stage product writes make).runOn before) := by
  have kept : (writes.runOn before).2.products = before.products := by
    simpa using congrArg Store.products (besides before)
  have elsewhere : ∀ other, other ≠ product.id →
      ((outage.flagging stage product writes make).runOn before).2.dossier other =
        before.dossier other := by
    intro other different
    exact (confined.flagging outage stage make).elsewhere other different before
  have outcome := flagging_outcome outage stage product writes make before
  generalize (outage.flagging stage product writes make).runOn before = ended
    at outcome elsewhere
  cases outcome with
  | unwritten cause after ran =>
    rw [ran] at kept
    exact .failed cause after elsewhere kept
  | unflagged written cause after ran =>
    rw [ran] at kept
    exact .failed cause after elsewhere kept
  | flagged written middle reached ran inReach completed =>
    obtain ⟨stored, _, _, advanced, changed⟩ := Store.completeStage_ok completed
    apply Store.Concluded.reached _ _ elsewhere
    · rw [told, changed]
      exact ⟨_, Std.ExtTreeMap.getElem?_insert_self, rfl⟩
    · rw [told]
      exact SyncStatus.isComplete_of_complete advanced
    · exact present written middle reached ran completed

/-! ## The three stages -/

/-- The output of publishing: the view that the product materializes with is stored, and its texts
are added to the record. -/
structure Published.Written (coding : Coding) (product : Product) (before : Store)
    (published : Published) (after : Store) : Prop where
  formed : product.materialize coding = .ok published.materialized
  viewed : after.views[product.id]? = some published.materialized.view
  merged : after.record product.id = before.record product.id ∪ published.materialized.hashes

/-- Publishing ends like every stage. -/
theorem concluded_publish (coding : Coding) (outage : Outage) (product : Product)
    (before : Store) :
    before.Concluded .view product.id Published.status (Published.Written coding product before)
      ((publish coding outage product).runOn before) := by
  rw [publish_eq_flagging]
  cases formed : product.materialize coding with
  | error cause => exact .idle _
  | ok materialized =>
    have owner := (product.materialize_ok formed).2.1
    apply Store.Concluded.mapError
    apply concluded_flagging outage (outage.confined_writeView owner)
      (outage.leaves_writeView product materialized) fun _ _ => rfl
    intro count middle reached ran completed
    obtain ⟨_, _, written⟩ := Outage.runOn_writeView_ok_iff.mp ran
    obtain rfl : _ = middle := congrArg Prod.snd written
    obtain ⟨_, _, _, _, changed⟩ := Store.completeStage_ok completed
    constructor
    · exact formed
    · rw [changed, ← owner]
      exact Std.ExtTreeMap.getElem?_insert_self
    · rw [Store.record_completeStage completed, Store.record_mergeHashes, if_pos rfl]
      rfl

/-- A failure to expand the product leaves the store as it was. -/
theorem publish_integrity {cause : ExpansionError}
    (failed : ((publish coding outage product).runOn before).1 = .error (.integrity cause)) :
    ((publish coding outage product).runOn before).2 = before := by
  rw [publish_eq_flagging] at failed ⊢
  cases formed : product.materialize coding with
  | error cause => rfl
  | ok materialized =>
    rw [formed] at failed
    change ((mapError ViewError.store _).runOn before).1 = _ at failed
    rw [runOn_mapError] at failed
    cases result : ((outage.flagging .view product (outage.writeView product materialized)
        (Published.mk materialized)).runOn before).1 with
    | error other =>
      rw [result] at failed
      cases failed
    | ok published =>
      rw [result] at failed
      cases failed

/-- Queueing the images ends like every stage, with the keys of all images in the queue. -/
theorem concluded_queueImages (outage : Outage) (product : Product) (before : Store) :
    before.Concluded .image product.id ImageOutcome.status
      (fun _ after => ∀ image ∈ product.imageRecords, image.key ∈ after.images.map ImageRecord.key)
      ((queueImages outage product).runOn before) := by
  rw [queueImages_eq_flagging]
  apply Store.Concluded.mapError
  apply concluded_flagging outage (outage.confined_writeImages product)
    (outage.leaves_writeImages product) fun _ _ => rfl
  intro split middle reached ran completed image member
  obtain ⟨_, rfl, _, rfl⟩ := Outage.runOn_writeImages_ok_iff.mp ran
  obtain ⟨_, _, _, _, changed⟩ := Store.completeStage_ok completed
  rw [changed]
  rcases Product.missing_or_mem_keys member with missing | present
  · exact Store.key_mem_insertImages missing
  · apply Store.mem_keys_insertImages
    rwa [Store.mem_keys_queuedImages (Product.productId_of_mem_imageRecords member)] at present

/-- Storing a payload of the product ends like every stage. -/
theorem concluded_storePayload (outage : Outage) (owner : payload.1.productId = product.id)
    (before : Store) :
    before.Concluded .content product.id ContentOutcome.status
      (fun outcome after => after.contents[product.id]? = some payload ∧
        outcome.units = payload.2.units.length)
      ((storePayload outage product payload).runOn before) := by
  have confined := outage.confined_upsertContent payload
  rw [owner] at confined
  rw [storePayload_eq_flagging]
  apply Store.Concluded.mapError
  apply concluded_flagging outage confined (outage.leaves_upsertContent payload) fun _ _ => rfl
  intro _ middle reached ran completed
  obtain ⟨_, rfl⟩ := Outage.runOn_upsertContent_ok_iff.mp ran
  obtain ⟨_, _, _, _, changed⟩ := Store.completeStage_ok completed
  refine ⟨?_, rfl⟩
  rw [changed, ← owner]
  exact Std.ExtTreeMap.getElem?_insert_self

/-- What is done to the store leaves the cache as it is. -/
theorem World.cache_onStore (attempt : Attempt Store ε α) :
    (World.onStore attempt : Attempt (World γ) ε α).Leaves World.cache := by
  intro world
  rw [World.runOn_onStore]
  rfl

namespace Pipeline

/-- Syndicating a product stores the payload that is built, if one is. -/
theorem runOn_syndicate (pipeline : Pipeline γ) (outage : Outage) (product : Product)
    (world : World γ) :
    (pipeline.syndicate outage product).runOn world =
      match (pipeline.buildPayload outage product).runOn world with
      | (.error failure, later) => (.error failure.toError, later)
      | (.ok payload, later) =>
        (World.onStore (storePayload outage product payload)).runOn later := by
  rw [syndicate, runOn_bind, runOn_mapError]
  rcases (pipeline.buildPayload outage product).runOn world with ⟨failure | payload, later⟩ <;> rfl

/-- Syndicating a product ends like every stage, with the payload that was built in the store. -/
theorem concluded_syndicate (pipeline : Pipeline γ) (outage : Outage) (product : Product)
    (before : World γ) :
    before.store.Concluded .content product.id ContentOutcome.status
      (fun outcome after => ∃ payload,
        ((pipeline.buildPayload outage product).runOn before).1 = .ok payload ∧
          after.contents[product.id]? = some payload ∧ outcome.units = payload.2.units.length)
      (((pipeline.syndicate outage product).runOn before).1,
        ((pipeline.syndicate outage product).runOn before).2.store) := by
  have kept := (pipeline.buildPayload_outcome outage product before).2
  rw [runOn_syndicate]
  rcases ran : (pipeline.buildPayload outage product).runOn before with ⟨failure | payload, later⟩
  · rw [ran] at kept
    have stored : later.store = before.store := congrArg Backend.store kept
    rw [← stored]
    exact .idle failure.toError
  · rw [ran] at kept
    have stored : later.store = before.store := congrArg Backend.store kept
    have concluded := concluded_storePayload outage (productId_of_buildPayload ran) later.store
    simp only [World.runOn_onStore, ← stored]
    apply concluded.weaken
    rintro outcome after ⟨found, counted⟩
    exact ⟨payload, rfl, found, counted⟩

/-- Syndicating a product leaves the cache as it is. -/
theorem leaves_syndicate (pipeline : Pipeline γ) (outage : Outage) (product : Product) :
    (pipeline.syndicate outage product).Leaves World.cache := by
  have built : (pipeline.buildPayload outage product).Leaves World.cache := by
    intro world
    exact congrArg Backend.cache (pipeline.buildPayload_outcome outage product world).2
  exact (built.mapError _).bind fun _ _ => World.cache_onStore _

/-- A payload that cannot be built ends the stage with its failure, and the store is as before. -/
theorem syndicate_of_failure {failure : BuildFailure} {before : World γ} {pipeline : Pipeline γ}
    (failed : ((pipeline.buildPayload outage product).runOn before).1 = .error failure) :
    ((pipeline.syndicate outage product).runOn before).1 = .error failure.toError ∧
      ((pipeline.syndicate outage product).runOn before).2.store = before.store := by
  have kept := (pipeline.buildPayload_outcome outage product before).2
  rw [runOn_syndicate]
  rcases ran : (pipeline.buildPayload outage product).runOn before with ⟨other | payload, later⟩
  · rw [ran] at failed kept
    cases failed
    exact ⟨rfl, congrArg Backend.store kept⟩
  · rw [ran] at failed
    cases failed

/-- What running a stage on a product can do to the store: nothing, or it writes the output of the
stage and flags it, as far as it gets. -/
inductive StageEffect (outage : Outage) (product : Product) (before : Store) :
    Stage → Store → Prop
  | idle (stage : Stage) : StageEffect outage product before stage before
  | view (materialized : Materialized) : StageEffect outage product before .view
      ((outage.flagging .view product (outage.writeView product materialized)
        (Published.mk materialized)).runOn before).2
  | image : StageEffect outage product before .image
      ((outage.flagging .image product (outage.writeImages product) fun split status =>
        ImageOutcome.mk split.1.length split.2.length status).runOn before).2
  | content (payload : Payload) : StageEffect outage product before .content
      ((outage.flagging .content product (outage.upsertContent payload) fun _ status =>
        ContentOutcome.mk payload.2.units.length status).runOn before).2

/-- Running a stage on a product does one of these. A product that cannot be expanded and a payload
that cannot be built are met before anything is written. -/
theorem stageEffect_process (pipeline : Pipeline γ) (outage : Outage) (stage : Stage)
    (product : Product) (world : World γ) :
    StageEffect outage product world.store stage
      ((pipeline.process outage stage product).runOn world).2.store := by
  cases stage with
  | view =>
    rw [process, runOn_bind_pure, World.runOn_onStore, runOn_mapError, publish_eq_flagging]
    cases product.materialize pipeline.coding with
    | error cause => exact .idle .view
    | ok materialized =>
      show StageEffect outage product world.store .view
        ((mapError ViewError.store _).runOn world.store).2
      rw [runOn_mapError]
      exact .view materialized
  | image =>
    rw [process, runOn_bind_pure, World.runOn_onStore, runOn_mapError, queueImages_eq_flagging,
      runOn_mapError]
    exact .image
  | content =>
    have kept := (pipeline.buildPayload_outcome outage product world).2
    rw [process, runOn_bind_pure, runOn_mapError, runOn_syndicate]
    rcases ran : (pipeline.buildPayload outage product).runOn world with ⟨failure | payload, later⟩
    · rw [ran] at kept
      have stored : later.store = world.store := congrArg Backend.store kept
      rw [← stored]
      exact .idle .content
    · rw [ran] at kept
      have stored : later.store = world.store := congrArg Backend.store kept
      simp only [World.runOn_onStore, storePayload_eq_flagging, runOn_mapError, ← stored]
      exact .content payload

/-- The stages end as they should, whatever is out of reach. Each of them fails without moving a
status or touching what is held for other products, or it succeeds with its flag set, the stored
status told and its output in the store. A product that cannot be expanded is not published at all,
and a payload that cannot be built is not stored at all. -/
theorem stages_conclude (pipeline : Pipeline γ) (outage : Outage) (product : Product) :
    (∀ before : Store,
      before.Concluded .view product.id Published.status
        (Published.Written pipeline.coding product before)
        ((publish pipeline.coding outage product).runOn before) ∧
      ∀ cause, ((publish pipeline.coding outage product).runOn before).1 =
          .error (.integrity cause) →
        ((publish pipeline.coding outage product).runOn before).2 = before) ∧
    (∀ before : Store,
      before.Concluded .image product.id ImageOutcome.status
        (fun _ after => ∀ image ∈ product.imageRecords,
          image.key ∈ after.images.map ImageRecord.key)
        ((queueImages outage product).runOn before)) ∧
    ∀ before : World γ,
      let built := (pipeline.buildPayload outage product).runOn before
      let ended := (pipeline.syndicate outage product).runOn before
      before.store.Concluded .content product.id ContentOutcome.status
        (fun outcome after => ∃ payload, built.1 = .ok payload ∧
          after.contents[product.id]? = some payload ∧ outcome.units = payload.2.units.length)
        (ended.1, ended.2.store) ∧
      ended.2.cache = before.cache ∧
      ∀ failure, built.1 = .error failure →
        ended.1 = .error failure.toError ∧ ended.2.store = before.store := by
  refine ⟨fun before => ⟨?_, ?_⟩, concluded_queueImages outage product, fun before => ⟨?_, ?_, ?_⟩⟩
  · exact concluded_publish pipeline.coding outage product before
  · exact fun _ => publish_integrity
  · exact pipeline.concluded_syndicate outage product before
  · exact pipeline.leaves_syndicate outage product before
  · exact fun _ => syndicate_of_failure

end Pipeline

end Syndication
