import Syndication.Proofs.Run.Interleaving
import Syndication.Proofs.Stage.Success

/-!
# Edits that overtake a pass

A pass processes its candidates as it has listed them, whatever came in since. The runs below
put an edit between the listing and the processing of a single product. As long as the edit keeps
the version it is not noticed: the flag is set on the new content, and the output is that of the
old one.

For the images the edit has to be published in the view before the pass of the images goes on,
since an edit takes the view's flag back and the images need it.
-/

namespace Syndication

open Attempt

/-- A product under a status. -/
def Product.under (product : Product) (status : SyncStatus) : Product := { product with status }

/-- The status is no part of the offer. -/
theorem Product.sameOffer_under (product : Product) (status : SyncStatus) :
    (product.under status).SameOffer product := .withStatus product status

namespace Store

variable {store later : Store} {product edited : Product} {stage : Stage}

/-- The store has one product and no other. -/
def Holds (store : Store) (product : Product) : Prop :=
  store.products = (∅ : Std.ExtTreeMap Int64 Product).insert product.id product

/-- The product that a store holds is found under its identifier. -/
theorem Holds.stored (holds : store.Holds product) :
    store.products[product.id]? = some product := by
  rw [holds]
  simp

/-- The product that a store holds is the only candidate of a stage that it is ready for. -/
theorem Holds.readyFor (holds : store.Holds product)
    (ready : product.status.isReadyFor stage = true) : store.readyFor stage = [product] := by
  have listed : store.products.toList = [(product.id, product)] := by
    rw [holds]
    rfl
  simp [Store.readyFor, withFlag, listed, ready, SyncStatus.isComplete_of_isReadyFor ready]

/-- Writing under the identifier of the product that a store holds replaces it. -/
theorem Holds.replaced (holds : store.Holds product) (same : edited.id = product.id)
    (written : later.products = store.products.insert product.id edited) : later.Holds edited := by
  rw [Holds, written, holds, same]
  refine Std.ExtTreeMap.ext_getElem? fun key => ?_
  by_cases current : product.id = key <;> simp [current]

/-- A product that comes into an empty store is held with the status it brings. -/
theorem holds_upsertProduct_empty : (Store.empty.upsertProduct product).2.Holds product := rfl

/-- An edit of the product that a store holds is held instead, to be published again if the
content is another. -/
theorem Holds.upsertProduct {status : SyncStatus} (holds : store.Holds (product.under status))
    (same : edited.id = product.id) (brought : SyncStatus) :
    (store.upsertProduct (edited.under brought)).2.Holds (edited.under
      (if edited.sameContent product then status else status.resync product.version)) := by
  refine holds.replaced same ?_
  have existed : store.products[edited.id]? = some (product.under status) := same ▸ holds.stored
  show store.products.insert edited.id { edited.under brought with
    status := store.ingestedStatus (edited.under brought) } = _
  have kept : store.ingestedStatus (edited.under brought) =
      if edited.sameContent product then status else status.resync product.version := by
    unfold ingestedStatus
    rw [show store.products[(edited.under brought).id]? = _ from existed]
    rfl
  rw [kept, same]
  rfl

/-- Completing a stage of the product that a store holds leaves the product held with that stage
as its last complete one. -/
theorem Holds.advance {status : SyncStatus} {id : Int64}
    (holds : store.Holds (product.under status)) (same : id = product.id)
    (written : later.products = (store.advance id (product.under status) stage).products) :
    later.Holds (product.under (.after stage)) := by
  subst same
  exact holds.replaced rfl written

end Store

namespace Situation

variable {γ : Type} {pipeline : Pipeline γ} {catalog : Product → Prop} {outside : γ}
  {situation : Situation γ} {stage : Stage}

/-- An entry of the catalog can come in as pending. -/
theorem edits (pipeline : Pipeline γ) (situation : Situation γ) {product : Product}
    (inCatalog : catalog product) :
    ∃ world : World γ, Step pipeline catalog situation { situation with world } ∧
      world.store = (situation.world.store.upsertProduct (product.under .pending)).2 :=
  ⟨_, .edit product .pending Outage.none inCatalog fun _ => rfl, rfl⟩

/-- What a pass has left to do once it has listed its candidates. -/
def remainder (pipeline : Pipeline γ) (stage : Stage) (listed : List Product) :
    Attempt (World γ) PipelineError StageReport := do
  let tally ← processAll (fun product => pipeline.process Outage.none stage product) listed .empty
  World.measure (Metrics.afterPass stage tally)
  return ⟨stage, listed.length, tally.succeeded, tally.failed⟩

/-- A pass can begin and list its candidates. -/
theorem lists (idle : situation.passes stage = none) :
    Relation.ReflTransGen (Step pipeline catalog) situation
      (situation.afterTurn stage situation.world
        (some (remainder pipeline stage (situation.world.store.readyFor stage)))) := by
  refine .trans (.single (.begin stage pipeline.collaborators Outage.none.throughout idle)) ?_
  have listed : Step pipeline catalog
      (situation.afterTurn stage situation.world
        (some (pipeline.runStage Outage.none.throughout stage))) _ :=
    .advance stage (fun world => world)
      (fun world => remainder pipeline stage (world.store.readyFor stage)) (passes_afterTurn _)
  rw [afterTurn_afterTurn] at listed
  exact .single listed

/-- A pass can do all that it has left without anybody acting in between. -/
theorem drains {rest : Attempt (World γ) PipelineError StageReport}
    (running : situation.passes stage = some rest) :
    Relation.ReflTransGen (Step pipeline catalog) situation
      (situation.afterTurn stage (rest.runOn situation.world).2 none) := by
  induction rest generalizing situation with
  | done result => exact .single (.finish stage result running)
  | act effect next inductionHypothesis =>
    refine .head (.advance stage effect next running) ?_
    have left : (situation.afterTurn stage (effect situation.world)
        (some (next situation.world))).passes stage = some (next situation.world) :=
      passes_afterTurn situation
    have continued := inductionHypothesis situation.world left
    rwa [afterTurn_afterTurn] at continued

/-- What is left for a single candidate reaches what processing the candidate reaches. -/
theorem reaches_remainder (success : Store → Prop) {candidate : Product} {world : World γ}
    (processed : (pipeline.process Outage.none stage candidate).Succeeds
      (fun _ later => success later.store) world) :
    success ((remainder pipeline stage [candidate]).runOn world).2.store := by
  have measured : ∀ (tally : PassTally) (later : World γ), success later.store →
      (World.measure (Metrics.afterPass stage tally) :
        Attempt (World γ) PipelineError Unit).Succeeds (fun _ after => success after.store) later :=
    fun tally later holds => succeeds_update holds
  have counted : (processAll (fun product => pipeline.process Outage.none stage product)
      [candidate] .empty : Attempt (World γ) PipelineError PassTally).Succeeds
      (fun _ later => success later.store) world := by
    refine processed.settled.followed ?_
    rintro outcome later ⟨_, _, holds⟩
    exact succeeds_pure holds
  have succeeded : (remainder pipeline stage [candidate]).Succeeds
      (fun _ later => success later.store) world := by
    refine counted.followed fun tally later holds => ?_
    exact (measured tally later holds).followed fun _ _ holds => succeeds_pure holds
  obtain ⟨report, later, ran, holds⟩ := succeeded.runs
  rw [ran]
  exact holds

/-- While a pass has the only product of the store listed, others may act. The pass then reaches
what processing the listed product reaches in the world they left. -/
theorem reaches_overtaken (success : Store → Prop) {candidate : Product} {later : World γ}
    (holds : situation.world.store.Holds candidate)
    (ready : candidate.status.isReadyFor stage = true) (idle : situation.passes stage = none)
    (acted : Relation.ReflTransGen (Step pipeline catalog)
      (situation.afterTurn stage situation.world (some (remainder pipeline stage [candidate])))
      (situation.afterTurn stage later (some (remainder pipeline stage [candidate]))))
    (processed : (pipeline.process Outage.none stage candidate).Succeeds
      (fun _ after => success after.store) later) :
    ∃ world : World γ, Relation.ReflTransGen (Step pipeline catalog) situation
      { situation with world } ∧ success world.store := by
  have listed : Relation.ReflTransGen (Step pipeline catalog) situation _ := lists idle
  rw [holds.readyFor ready] at listed
  have drained : Relation.ReflTransGen (Step pipeline catalog)
      (situation.afterTurn stage later (some (remainder pipeline stage [candidate]))) _ :=
    drains (passes_afterTurn situation)
  rw [afterTurn_afterTurn, afterTurn_idle idle] at drained
  exact ⟨_, (listed.trans acted).trans drained, reaches_remainder success processed⟩

variable {first second : Product} {materialized : Materialized}

/-- An edit that keeps the version and comes in during a pass of the view ends up with the view of
the content before it. -/
theorem reaches_stale_view (firstIn : catalog first) (secondIn : catalog second)
    (id : first.id = second.id) (version : first.version = second.version)
    (formed : first.materialize pipeline.coding = .ok materialized) :
    ∃ situation : Situation γ, situation.Reached pipeline catalog outside ∧
      situation.world.store.Holds (second.under .viewReady) ∧
      situation.world.store.views[second.id]? = some materialized.view := by
  -- The first content comes in, and a pass of the view lists it.
  obtain ⟨begun, came, stored⟩ := edits pipeline (initial outside) firstIn
  have holds : begun.store.Holds (first.under .pending) := stored ▸ Store.holds_upsertProduct_empty
  -- The second content comes in, with the first one listed.
  obtain ⟨edited, overtook, storedThen⟩ := edits pipeline
    (Situation.afterTurn ⟨begun, fun _ => none⟩ .view begun
      (some (remainder pipeline .view [first.under .pending]))) secondIn
  have holdsThen : edited.store.Holds (second.under .pending) := by
    have replaced := holds.upsertProduct id.symm .pending
    rw [SyncStatus.resync, ite_self] at replaced
    exact storedThen ▸ replaced
  -- The pass goes on with what it has listed.
  have found : edited.store.products[(first.under .pending).id]? = some (second.under .pending) :=
    (congrArg (edited.store.products[·]?) id).trans holdsThen.stored
  have processed : (pipeline.process Outage.none .view (first.under .pending)).Succeeds
      (fun _ later => later.store.Holds (second.under .viewReady) ∧
        later.store.views[second.id]? = some materialized.view) edited := by
    refine (pipeline.succeeds_process_view found version.symm rfl
      ((first.sameOffer_under .pending).materialize_eq.trans formed)).weaken ?_
    rintro _ later ⟨products, viewed, _⟩
    exact ⟨holdsThen.advance id products, id ▸ viewed⟩
  obtain ⟨world, drained, reached⟩ := reaches_overtaken
    (fun store => store.Holds (second.under .viewReady) ∧
      store.views[second.id]? = some materialized.view) holds rfl rfl (.single overtook) processed
  exact ⟨_, .head came drained, reached⟩

/-- A whole pass of the view publishes the only product of the store, if that can be expanded. -/
theorem reaches_view (situation : Situation γ) {product : Product} {status : SyncStatus}
    (holds : situation.world.store.Holds (product.under status))
    (ready : status.isReadyFor .view = true) (idle : situation.passes .view = none)
    (formed : product.materialize pipeline.coding = .ok materialized) :
    ∃ world : World γ, Relation.ReflTransGen (Step pipeline catalog) situation
      { situation with world } ∧ world.store.Holds (product.under .viewReady) ∧
        world.store.images = situation.world.store.images := by
  have processed : (pipeline.process Outage.none .view (product.under status)).Succeeds
      (fun _ later => later.store.Holds (product.under .viewReady) ∧
        later.store.images = situation.world.store.images) situation.world := by
    refine (pipeline.succeeds_process_view holds.stored rfl ready
      ((product.sameOffer_under status).materialize_eq.trans formed)).weaken ?_
    rintro _ later ⟨products, _, images⟩
    exact ⟨holds.advance rfl products, images⟩
  exact reaches_overtaken
    (fun store => store.Holds (product.under .viewReady) ∧
      store.images = situation.world.store.images) holds ready idle .refl processed

/-- An edit that keeps the version and comes in during a pass of the images, and whose view is
published before that pass goes on, ends up with the images of the content before it. -/
theorem reaches_stale_images (firstIn : catalog first) (secondIn : catalog second)
    (id : first.id = second.id) (version : first.version = second.version)
    (edit : second.sameContent first = false)
    (formed : first.materialize pipeline.coding = .ok materialized)
    {materializedThen : Materialized}
    (formedThen : second.materialize pipeline.coding = .ok materializedThen) :
    ∃ situation : Situation γ, situation.Reached pipeline catalog outside ∧
      situation.world.store.Holds (second.under .imageReady) ∧
      ∀ image ∈ situation.world.store.images, image ∈ first.imageRecords := by
  -- The first content comes in and its view is published, then a pass of the images lists it.
  obtain ⟨begun, came, stored⟩ := edits pipeline (initial outside) firstIn
  have holdsFirst : begun.store.Holds (first.under .pending) :=
    stored ▸ Store.holds_upsertProduct_empty
  obtain ⟨viewed, published, holds, images⟩ :=
    reaches_view ⟨begun, fun _ => .none⟩ holdsFirst rfl rfl formed
  -- The second content comes in and its view is published too, with the first one listed.
  let listed : Option (Attempt (World γ) PipelineError StageReport) :=
    some (remainder pipeline .image [first.under .viewReady])
  obtain ⟨edited, overtook, storedThen⟩ := edits pipeline
    (Situation.afterTurn ⟨viewed, fun _ => .none⟩ .image viewed listed) secondIn
  have holdsEdit : edited.store.Holds (second.under (.needsResync first.version)) := by
    have replaced := holds.upsertProduct id.symm .pending
    rw [edit, if_neg Bool.false_ne_true] at replaced
    exact storedThen ▸ replaced
  obtain ⟨later, publishedThen, holdsThen, imagesThen⟩ :=
    reaches_view (Situation.afterTurn ⟨viewed, fun _ => .none⟩ .image edited listed) holdsEdit rfl
      rfl formedThen
  have empty : later.store.images = [] := by
    calc later.store.images = edited.store.images := imagesThen
      _ = viewed.store.images := by rw [storedThen]; rfl
      _ = begun.store.images := images
      _ = [] := by rw [stored]; rfl
  -- The pass goes on with what it has listed.
  have found : later.store.products[(first.under .viewReady).id]? =
      some (second.under .viewReady) :=
    (congrArg (later.store.products[·]?) id).trans holdsThen.stored
  have processed : (pipeline.process Outage.none .image (first.under .viewReady)).Succeeds
      (fun _ after => after.store.Holds (second.under .imageReady) ∧
        ∀ image ∈ after.store.images, image ∈ first.imageRecords) later := by
    refine (pipeline.succeeds_process_image found version.symm rfl).weaken ?_
    rintro _ after ⟨products, queued⟩
    refine ⟨holdsThen.advance id products, fun image member => ?_⟩
    rcases queued image member with queuedBefore | own
    · rw [empty] at queuedBefore
      exact absurd queuedBefore List.not_mem_nil
    · rwa [(first.sameOffer_under .viewReady).imageRecords_eq] at own
  obtain ⟨world, drained, reached⟩ := reaches_overtaken
    (fun store => store.Holds (second.under .imageReady) ∧
      ∀ image ∈ store.images, image ∈ first.imageRecords) holds rfl rfl
    (.head overtook publishedThen) processed
  exact ⟨_, .head came (published.trans drained), reached⟩

end Situation

end Syndication
