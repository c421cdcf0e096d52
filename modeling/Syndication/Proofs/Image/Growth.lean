import Mathlib.Data.List.Nodup
import Syndication.Proofs.Cache.Copying
import Syndication.Proofs.Purge.Effect
import Syndication.Proofs.Stage.Conclusion

/-!
# How the queue grows

The image queue is only ever added to. The stages queue images of contents that came in, each key
once and none that is queued already, and nothing takes a record out of the queue. An image that
was assigned an identifier has one from then on.

`Store.Lengthens` says this of two stores, one later than the other. It holds from any point of a
run of operations to any later point, whatever is out of reach.
-/

namespace Syndication

open Attempt

/-- The keys of the images of a product, in order. -/
abbrev Product.imageKeys (product : Product) : List (Int64 × String × String) :=
  product.imageRecords.map ImageRecord.key

/-- A key belongs to an image of some content that came in. -/
def Pictured (came : Product → Prop) (key : Int64 × String × String) : Prop :=
  ∃ source, came source ∧ key ∈ source.imageKeys

/-- The images of a product have different keys. -/
theorem Product.nodup_imageKeys (product : Product) : product.imageKeys.Nodup := by
  rw [imageKeys, imageRecords, List.map_map]
  refine List.Nodup.map ?_ (nodup_eraseDups _)
  intro left right same
  cases left
  cases right
  cases same
  rfl

/-- The images of a product whose offer came in are images of a content that came in. -/
theorem Product.OfferedBy.pictured {came : Product → Prop} {product : Product}
    (offered : product.OfferedBy came) {image : ImageRecord}
    (member : image ∈ product.imageRecords) : Pictured came image.key := by
  obtain ⟨source, cameIn, same⟩ := offered
  exact ⟨source, cameIn, List.mem_map_of_mem (same.imageRecords_eq ▸ member)⟩

namespace Store

variable {came : Product → Prop} {start before middle after store : Store} {product : Product}

/-- An image with a key is queued and was assigned an identifier. -/
def Assigned (store : Store) (key : Int64 × String × String) : Prop :=
  ∃ image ∈ store.images, image.key = key ∧ image.tripImageId.isSome = true

/-- The queue of a later store is the queue of an earlier one with keys added: different ones that
were not queued, of images of contents that came in. What was assigned an identifier has one. -/
structure Lengthens (came : Product → Prop) (before after : Store) : Prop where
  keys : ∃ added, after.imageKeys = before.imageKeys ++ added ∧ added.Nodup ∧
    ∀ key ∈ added, key ∉ before.imageKeys ∧ Pictured came key
  assigned : ∀ key, before.Assigned key → after.Assigned key

/-! ## Growth -/

/-- A queue that is the same has grown by nothing. -/
theorem Lengthens.of_images_eq (same : after.images = before.images) :
    before.Lengthens came after where
  keys := ⟨[], by rw [imageKeys, same, List.append_nil], List.nodup_nil, nofun⟩
  assigned key present := by rwa [Assigned, same]

/-- A queue that grew twice has grown. -/
theorem Lengthens.trans (first : before.Lengthens came middle)
    (second : middle.Lengthens came after) : before.Lengthens came after where
  assigned key present := second.assigned key (first.assigned key present)
  keys := by
    obtain ⟨earlier, keysThen, distinctThen, freshThen⟩ := first.keys
    obtain ⟨later, keys, distinct, fresh⟩ := second.keys
    rw [keysThen] at keys fresh
    refine ⟨earlier ++ later, by rw [keys, List.append_assoc], ?_, ?_⟩
    · refine List.nodup_append.mpr ⟨distinctThen, distinct, ?_⟩
      rintro key inEarlier _ inLater rfl
      exact (fresh key inLater).1 (List.mem_append_right _ inEarlier)
    · intro key member
      rcases List.mem_append.mp member with inEarlier | inLater
      · exact freshThen key inEarlier
      · obtain ⟨new, pictured⟩ := fresh key inLater
        exact ⟨fun queued => new (List.mem_append_left _ queued), pictured⟩

/-- Growth adds no key twice. -/
theorem Lengthens.nodup (lengthened : before.Lengthens came after)
    (distinct : before.imageKeys.Nodup) : after.imageKeys.Nodup := by
  obtain ⟨added, keys, distinctAdded, fresh⟩ := lengthened.keys
  rw [keys]
  refine List.nodup_append.mpr ⟨distinct, distinctAdded, ?_⟩
  rintro key queued _ new rfl
  exact (fresh key new).1 queued

/-- Every key is queued already, or belongs to an image of a content that came in. -/
theorem Lengthens.mem_imageKeys (lengthened : before.Lengthens came after)
    {key : Int64 × String × String} (member : key ∈ after.imageKeys) :
    key ∈ before.imageKeys ∨ Pictured came key := by
  obtain ⟨added, keys, _, fresh⟩ := lengthened.keys
  rw [keys, List.mem_append] at member
  exact member.imp_right fun new => (fresh key new).2

/-- Queueing records with different keys lengthens the queue. -/
theorem lengthens_insertImages {records : List ImageRecord}
    (distinct : (records.map ImageRecord.key).Nodup)
    (pictured : ∀ image ∈ records, Pictured came image.key) :
    store.Lengthens came (store.insertImages records) where
  keys := by
    refine ⟨_, imageKeys_insertImages store records, distinct.filter _, fun key member => ?_⟩
    obtain ⟨given, new⟩ := List.mem_filter.mp member
    obtain ⟨image, listed, rfl⟩ := List.mem_map.mp given
    exact ⟨by simpa using new, pictured image listed⟩
  assigned key := by
    rintro ⟨image, queued, present⟩
    exact ⟨image, List.mem_append_left _ queued, present⟩

/-- Assigning an identifier takes none away. -/
theorem lengthens_assignImage (store : Store) (id : Int64) (url tripImageId : String) :
    store.Lengthens came (store.assignImage id url tripImageId).2 where
  keys := ⟨[], by rw [imageKeys_assignImage, List.append_nil], List.nodup_nil, nofun⟩
  assigned key := by
    rintro ⟨image, queued, rfl, present⟩
    refine ⟨_, List.mem_map_of_mem queued, ?_⟩
    split
    case isTrue => exact ⟨rfl, rfl⟩
    case isFalse => exact ⟨rfl, present⟩

/-! ## Operations of the store -/

/-- What holds along a run since some store: every stored product makes an offer that came in, and
the queue has grown. -/
structure Grown (came : Product → Prop) (start store : Store) : Prop where
  offered : ∀ (id : Int64) (product : Product), store.products[id]? = some product →
    product.OfferedBy came
  lengthened : start.Lengthens came store

namespace Grown

/-- What leaves products and queue alone keeps it. -/
theorem of_eq (grown : start.Grown came before) (products : after.products = before.products)
    (images : after.images = before.images) : start.Grown came after where
  offered id product found := grown.offered id product (products ▸ found)
  lengthened := grown.lengthened.trans (.of_images_eq images)

/-- It holds when a content comes in that is among those that do. -/
theorem upsertProduct (grown : start.Grown came store) (cameIn : came product) :
    start.Grown came (store.upsertProduct product).2 where
  lengthened := grown.lengthened.trans (.of_images_eq rfl)
  offered id entry found := by
    rw [products_upsertProduct] at found
    split at found
    case isTrue =>
      cases found
      exact ⟨product, cameIn, .withStatus product _⟩
    case isFalse => exact grown.offered id entry found

/-- A stage that is marked complete changes the status of a product only. -/
theorem completeStage {id : Int64} {version : Int32} {stage : Stage} {reached : SyncStatus × Store}
    (grown : start.Grown came store)
    (completed : store.completeStage id version stage = .ok reached) :
    start.Grown came reached.2 := by
  obtain ⟨product, found, _, _, changed⟩ := completeStage_ok completed
  rw [changed]
  refine ⟨fun key entry present => ?_, grown.lengthened.trans (.of_images_eq rfl)⟩
  rw [Std.ExtTreeMap.getElem?_insert] at present
  split at present
  case isTrue =>
    cases present
    exact (grown.offered id product found).withStatus reached.1
  case isFalse => exact grown.offered key entry present

/-- Images of an offered product that are missing from the queue are queued. -/
theorem insertMissing (grown : start.Grown came store) (offered : product.OfferedBy came)
    (queued : List ImageRecord) :
    start.Grown came (store.insertImages (product.splitImages queued).1) where
  offered := grown.offered
  lengthened := by
    refine grown.lengthened.trans (lengthens_insertImages ?_ fun image missing => ?_)
    · rw [Product.splitImages, List.partition_eq_filter_filter]
      exact product.nodup_imageKeys.sublist (List.filter_sublist.map _)
    · exact offered.pictured (Product.mem_imageRecords_of_missing missing)

end Grown

end Store

/-! ## Stages -/

variable {γ ε α β : Type} {came : Product → Prop} {start store : Store} {outage : Outage}
  {product : Product} {stage : Stage} {world : World γ}

/-- Writing and flagging keeps what is known along a run when the writing does. -/
theorem grown_flagging {writes : Attempt Store StoreError α} {make : α → SyncStatus → β}
    (grown : start.Grown came (writes.runOn store).2) :
    start.Grown came ((outage.flagging stage product writes make).runOn store).2 := by
  have outcome := flagging_outcome outage stage product writes make store
  generalize (outage.flagging stage product writes make).runOn store = ended at outcome
  cases outcome with
  | unwritten cause after ran =>
    rw [ran] at grown
    exact grown
  | unflagged written cause after ran =>
    rw [ran] at grown
    exact grown
  | flagged written middle reached ran inReach completed =>
    rw [ran] at grown
    exact grown.completeStage completed

/-- What leaves everything besides the output of another stage alone keeps the queue. -/
theorem Store.Grown.of_besides {after : Store} (grown : start.Grown came store)
    (same : after.besides stage = store.besides stage) (other : stage ≠ .image) :
    start.Grown came after := by
  have images := congrArg Store.images same
  refine grown.of_eq (by simpa using congrArg Store.products same) ?_
  cases stage with
  | view => exact images
  | image => exact absurd rfl other
  | content => exact images

/-- Writing the images of an offered product queues those that are missing. -/
theorem grown_writeImages (grown : start.Grown came store) (offered : product.OfferedBy came) :
    start.Grown came ((outage.writeImages product).runOn store).2 := by
  rw [Outage.writeImages, runOn_bind, Outage.queuedImages, Outage.runOn_onStore]
  cases outage.store (.queuedImages product.id) with
  | some reason => exact grown
  | none =>
    simp only [runOn_bind_pure]
    rw [Outage.insertMissing]
    split
    case isTrue => exact grown
    case isFalse =>
      rw [Outage.insertImages, Outage.runOn_onStore]
      cases outage.store .insertImages with
      | some reason => exact grown
      | none => exact grown.insertMissing offered _

namespace Pipeline

/-- Running a stage on an offered product keeps what is known along a run. -/
theorem grown_process (pipeline : Pipeline γ) (grown : start.Grown came world.store)
    (offered : product.OfferedBy came) :
    start.Grown came ((pipeline.process outage stage product).runOn world).2.store := by
  have effect := pipeline.stageEffect_process outage stage product world
  generalize ((pipeline.process outage stage product).runOn world).2.store = after at effect
  cases effect with
  | idle => exact grown
  | view materialized =>
    have same := outage.leaves_writeView product materialized world.store
    exact grown_flagging (grown.of_besides same nofun)
  | image => exact grown_flagging (grown_writeImages grown offered)
  | content payload =>
    have same := outage.leaves_upsertContent payload world.store
    exact grown_flagging (grown.of_besides same nofun)

/-- So does processing offered products one after the other.

Induct over the products. -/
theorem grown_processAll (pipeline : Pipeline γ) {outages : Product → Outage}
    {products : List Product} (offered : ∀ product ∈ products, product.OfferedBy came)
    (grown : start.Grown came world.store) (tally : PassTally) :
    start.Grown came ((processAll (fun product => pipeline.process (outages product) stage product)
      products tally : Attempt (World γ) ε PassTally).runOn world).2.store := by
  induction products generalizing world tally with
  | nil => exact grown
  | cons product rest inductionHypothesis =>
    rw [List.forall_mem_cons] at offered
    rw [processAll, runOn_bind, runOn_settle]
    exact inductionHypothesis offered.2 (pipeline.grown_process grown offered.1) _

/-- So does a stage pass, whose candidates are stored when they are listed. -/
theorem grown_runStage (pipeline : Pipeline γ) {outage : PassOutage}
    (grown : start.Grown came world.store) :
    (pipeline.runStage outage stage).Ensures (fun later => start.Grown came later.store)
      (fun _ _ => True) world := by
  have found : (outage.listing.findProducts stage false).Ensures (start.Grown came)
      (fun products _ => ∀ product ∈ products, product.OfferedBy came) world.store := by
    refine Outage.ensures_onStore grown ⟨grown, fun products same product member => ?_⟩
    cases same
    obtain ⟨entry, listed, rfl⟩ := List.mem_map.mp (List.mem_filter.mp member).1
    exact grown.offered _ _ (Std.ExtTreeMap.mem_toList_iff_getElem?_eq_some.mp listed)
  have listed : (candidates outage.listing stage).Ensures (start.Grown came)
      (fun products _ => ∀ product ∈ products, product.OfferedBy came) world.store :=
    found.followed fun products later grown offered =>
      meets_pure grown fun product member => offered product (List.mem_filter.mp member).1
  refine Meets.followed (World.ensures_onStore listed.wrapped fun _ grown => grown) ?_
  intro products later grown offered
  have processed : (processAll (fun product => pipeline.process (outage.processing product) stage
      product) products .empty : Attempt (World γ) PipelineError PassTally).Ensures
      (fun later => start.Grown came later.store) (fun _ _ => True) later :=
    meets_alone_iff.mpr ⟨pipeline.grown_processAll offered grown .empty, fun _ _ => trivial⟩
  refine processed.followed fun tally later grown _ => ?_
  have measured : (World.measure (Metrics.afterPass stage tally) :
      Attempt (World γ) PipelineError Unit).Ensures
      (fun later => start.Grown came later.store) (fun _ _ => True) later :=
    World.ensures_measure grown
  exact measured.followed fun _ _ grown _ => meets_pure grown trivial

/-- So does a sync pass. -/
theorem grown_runSync (pipeline : Pipeline γ) {outage : Stage → PassOutage}
    (grown : start.Grown came world.store) :
    (pipeline.runSync outage).Ensures (fun later => start.Grown came later.store)
      (fun _ _ => True) world := by
  unfold runSync
  refine (pipeline.grown_runStage grown).followed fun _ _ grown _ => ?_
  refine (pipeline.grown_runStage grown).followed fun _ _ grown _ => ?_
  refine (pipeline.grown_runStage grown).followed fun _ _ grown _ => ?_
  exact meets_pure grown trivial

/-- A reconciliation pass leaves the store as it is. -/
theorem store_runReconcile (pipeline : Pipeline γ) (outage : Outage) :
    (pipeline.runReconcile outage).Leaves World.store := by
  intro world
  cases inReach : outage.store .loadRecords with
  | some reason =>
    rw [runReconcile, runOn_bind, World.runOn_onBackend, runOn_mapError,
      runOn_reconcile_of_fails inReach]
    rfl
  | none =>
    obtain ⟨_, later, ran, left, _⟩ := runOn_runReconcile pipeline world inReach
    rw [ran]
    have stored : later.backend.store = _ := congrArg Backend.store left
    exact stored

/-- A purge replaces a record at most. -/
theorem grown_purge (pipeline : Pipeline γ) (outage : Outage) (id : Int64)
    (grown : start.Grown came world.store) :
    start.Grown came ((pipeline.purge outage id).runOn world).2.store := by
  rw [runOn_purge]
  have outcome := purgeRetired_outcome pipeline.coding outage id world.backend
  show start.Grown came ((purgeRetired pipeline.coding outage id).runOn world.backend).2.store
  generalize (purgeRetired pipeline.coding outage id).runOn world.backend = ended at outcome
  cases outcome with
  | refused => exact grown
  | interrupted => exact grown.of_eq rfl rfl
  | finished => exact grown.of_eq rfl rfl

end Pipeline

/-! ## Runs -/

namespace Operation

variable {pipeline : Pipeline γ}

/-- An operation takes in a content, with the store in reach. -/
def Ingests (operation : Operation γ) (product : Product) : Prop :=
  ∃ outage : Outage, operation = .ingest product outage ∧
    outage.store (.upsertProduct product.id) = none

/-- The contents that come in during a run. -/
def CameIn (operations : List (Operation γ)) (product : Product) : Prop :=
  ∃ operation ∈ operations, operation.Ingests product

/-- The world after some operations, performed in order. -/
def performAll (pipeline : Pipeline γ) (operations : List (Operation γ)) (world : World γ) :
    World γ :=
  operations.foldl (fun world operation => operation.perform pipeline world) world

/-- An operation keeps what is known along a run, provided that what it takes in is known. -/
theorem grown_perform (operation : Operation γ) (known : ∀ product, operation.Ingests product →
    came product) (grown : start.Grown came world.store) :
    start.Grown came (operation.perform pipeline world).store := by
  cases operation with
  | ingest product outage =>
    rw [perform, World.runOn_onStore, Outage.upsertProduct, Outage.runOn_onStore]
    cases inReach : outage.store (.upsertProduct product.id) with
    | some reason => exact grown
    | none => exact grown.upsertProduct (known product ⟨outage, rfl, inReach⟩)
  | pass stage collaborators outage =>
    exact (meets_alone_iff.mp (Pipeline.grown_runStage { pipeline with collaborators } grown)).1
  | sync collaborators outage =>
    exact (meets_alone_iff.mp (Pipeline.grown_runSync { pipeline with collaborators } grown)).1
  | reconcile outage =>
    rw [perform, pipeline.store_runReconcile outage world]
    exact grown
  | purge id outage => exact pipeline.grown_purge outage id grown
  | evict code outage =>
    rw [perform, World.runOn_onCache]
    exact grown
  | assign id url tripImageId =>
    refine ⟨grown.offered, grown.lengthened.trans ?_⟩
    exact Store.lengthens_assignImage world.store id url tripImageId

/-- So does a run.

Induct over the operations. -/
theorem grown_performAll {operations : List (Operation γ)}
    (known : ∀ product, CameIn operations product → came product)
    (grown : start.Grown came world.store) :
    start.Grown came (performAll pipeline operations world).store := by
  induction operations generalizing world with
  | nil => exact grown
  | cons operation rest inductionHypothesis =>
    apply inductionHypothesis
    · rintro product ⟨later, member, ingests⟩
      exact known product ⟨later, List.mem_cons_of_mem _ member, ingests⟩
    · refine operation.grown_perform (fun product ingests => ?_) grown
      exact known product ⟨operation, List.mem_cons_self, ingests⟩

/-- The world after a run that starts with empty services. -/
def worldAfter (pipeline : Pipeline γ) (operations : List (Operation γ)) (outside : γ) : World γ :=
  performAll pipeline operations (World.initial outside)

/-- What comes in during a part of a run comes in during the run. -/
theorem CameIn.mono {part whole : List (Operation γ)} (contained : part ⊆ whole)
    (cameIn : CameIn part product) : CameIn whole product := by
  obtain ⟨operation, member, ingests⟩ := cameIn
  exact ⟨operation, contained member, ingests⟩

/-- A run from empty services brings images of what comes in into the queue, and no others. -/
theorem grown_of_run (pipeline : Pipeline γ) {operations : List (Operation γ)}
    (known : ∀ product, CameIn operations product → came product) (outside : γ) :
    Store.empty.Grown came (worldAfter pipeline operations outside).store := by
  refine grown_performAll known ⟨fun id product found => ?_, .of_images_eq rfl⟩
  simp [World.store, World.initial, Backend.empty, Store.empty] at found

/-- From any point of a run to any later point the queue has grown. -/
theorem grown_between (pipeline : Pipeline γ) (earlier more : List (Operation γ)) (outside : γ) :
    (worldAfter pipeline earlier outside).store.Grown (CameIn (earlier ++ more))
      (worldAfter pipeline (earlier ++ more) outside).store := by
  have before := grown_of_run pipeline
    (fun _ cameIn => CameIn.mono (List.subset_append_left earlier more) cameIn) outside
  have goesOn : worldAfter pipeline (earlier ++ more) outside =
      performAll pipeline more (worldAfter pipeline earlier outside) := List.foldl_append
  rw [goesOn]
  exact grown_performAll (fun _ => CameIn.mono (List.subset_append_right earlier more))
    ⟨before.offered, .of_images_eq rfl⟩

end Operation

end Syndication
