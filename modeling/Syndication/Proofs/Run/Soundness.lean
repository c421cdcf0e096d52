import Syndication.Proofs.Cache.Flattening
import Syndication.Proofs.Cache.Resolution
import Syndication.Proofs.Run.Operations
import Syndication.Proofs.Stage.Passes

/-!
# What holds along runs

One invariant carries everything that is said about reachable worlds. The store agrees with
its products, compared by what they offer: nobody edits a product while a stage works on it.
Every text in a record was issued for its product by a content that the catalog has, and
every text in the cache was issued for some product. Without a time to live of zero no cache
entry is expired.

Besides the passes only ingestion and purging touch what agreement is about. Purging replaces
a record by the texts of the stored product, which are the ones that the view stage promised.
-/

namespace Syndication

open Attempt

/-- Two products make the same offer, and the catalog has a content that makes it too. -/
def Product.SameOffered (catalog : Product → Prop) (left right : Product) : Prop :=
  left.SameOffer right ∧ left.OfferedBy catalog

/-- Making the same offer from the catalog is a likeness. -/
theorem Product.SameOffered.likeness (catalog : Product → Prop) :
    Likeness (Product.SameOffered catalog) where
  id left right like := Product.SameOffer.likeness.id left right like.1
  status left right like first second :=
    ⟨Product.SameOffer.likeness.status left right like.1 first second, like.2.withStatus first⟩
  edited edited existing source same own like :=
    ⟨Product.SameOffer.likeness.edited edited existing source same own.1 like.1, own.2⟩

/-- A text was issued under a code for an identifier by an offer of the catalog. -/
abbrev Coding.Issues (coding : Coding) (catalog : Product → Prop) (id : Int64)
    (code text : String) : Prop :=
  Store.Issued coding (Product.SameOffered catalog) id code text

/-- The store agrees with its products, and its records hold issued texts only. -/
structure Store.Sound (coding : Coding) (catalog : Product → Prop) (store : Store) : Prop where
  agrees : store.Agrees coding (Product.SameOffered catalog)
  recorded : ∀ (id : Int64) (code text : String), (store.record id)[code]? = some text →
    coding.Issues catalog id code text

/-- The cache holds issued texts only, and none of its entries is expired unless it was
written to be so. -/
structure Cache.Sound (coding : Coding) (ttlSeconds : Nat) (catalog : Product → Prop)
    (cache : Cache) : Prop where
  cached : ∀ code text : String, cache.get? code = some text →
    ∃ id, coding.Issues catalog id code text
  live : ttlSeconds ≠ 0 → ∀ code, cache.expired.contains code = false

/-- Both services are sound. -/
structure Backend.Sound (coding : Coding) (ttlSeconds : Nat) (catalog : Product → Prop)
    (backend : Backend) : Prop where
  store : backend.store.Sound coding catalog
  cache : backend.cache.Sound coding ttlSeconds catalog

variable {coding : Coding} {ttlSeconds : Nat} {catalog : Product → Prop}

/-! ## Operations of the store -/

namespace Store.Sound

variable {store : Store} {product : Product}

/-- The empty store is sound. -/
theorem empty : Store.empty.Sound coding catalog := by
  refine ⟨agrees_empty, fun id code text assigned => ?_⟩
  simp [record, Store.empty] at assigned

/-- A store stays sound when an entry of the catalog comes in. -/
theorem upsertProduct (sound : store.Sound coding catalog) (offered : catalog product)
    (pending : store.products[product.id]? = none → product.status = .pending) :
    (store.upsertProduct product).2.Sound coding catalog where
  agrees := sound.agrees.upsertProduct (Product.SameOffered.likeness catalog)
    ⟨.refl product, product, offered, .refl product⟩ pending
  recorded := sound.recorded

/-- A store stays sound when a record is replaced by the texts of the stored product. -/
theorem replaceHashes {id : Int64} {materialized : Materialized}
    (sound : store.Sound coding catalog) (stored : store.products[id]? = some product)
    (formed : product.materialize coding = .ok materialized) :
    (store.replaceHashes id materialized.hashes).2.Sound coding catalog where
  agrees := by
    refine ⟨sound.agrees.placed, sound.agrees.own, fun key other stage found complete => ?_⟩
    obtain ⟨source, same, shown⟩ := sound.agrees.shown key other stage found complete
    refine ⟨source, same, ?_⟩
    cases stage with
    | image => exact shown
    | content => exact shown
    | view =>
      obtain ⟨shownView, formedSource, viewed, published⟩ := shown
      refine ⟨shownView, formedSource, viewed, fun code text assigned => ?_⟩
      have otherId := sound.agrees.placed key other found
      rw [record_replaceHashes]
      by_cases current : source.id = id
      · have key_eq : key = id := by rw [← otherId, same.1.id, current]
        subst key_eq
        cases stored.symm.trans found
        cases formed.symm.trans (same.1.materialize_eq.trans formedSource)
        rw [if_pos current]
        exact assigned
      · rw [if_neg current]
        exact published code text assigned
  recorded key code text assigned := by
    rw [record_replaceHashes] at assigned
    by_cases current : key = id
    · rw [if_pos current] at assigned
      exact ⟨product, materialized, sound.agrees.own id product stored,
        (sound.agrees.placed id product stored).trans current.symm, formed, assigned⟩
    · rw [if_neg current] at assigned
      exact sound.recorded key code text assigned

/-- A store stays sound when the image processor reports an import: the keys in the queue stay
the same. -/
theorem assignImage (sound : store.Sound coding catalog) (id : Int64) (url tripImageId : String) :
    (store.assignImage id url tripImageId).2.Sound coding catalog where
  recorded := sound.recorded
  agrees := by
    refine sound.agrees.retained rfl fun stage => ?_
    cases stage with
    | view => exact ⟨rfl, rfl⟩
    | content => rfl
    | image =>
      intro key member
      show key ∈ (store.assignImage id url tripImageId).2.imageKeys
      rwa [imageKeys_assignImage]

/-- What a stage does to a sound store leaves it sound. -/
theorem advances {after : Store} {stage : Stage} {id : Int64} (sound : store.Sound coding catalog)
    (advanced : store.Advances coding (Product.SameOffered catalog) stage id after) :
    after.Sound coding catalog where
  agrees := advanced.agrees sound.agrees
  recorded key code text assigned :=
    (advanced.issued key code text assigned).elim (sound.recorded key code text)
      fun issued => issued

end Store.Sound

/-! ## Operations of the cache -/

namespace Cache.Sound

variable {cache : Cache} {code text : String}

/-- The empty cache is sound. -/
theorem empty : Cache.empty.Sound coding ttlSeconds catalog := by
  constructor <;> simp [Cache.empty, Cache.get?]

/-- A cache stays sound when an issued text is written. -/
theorem setIfAbsent {id : Int64} (sound : cache.Sound coding ttlSeconds catalog)
    (issued : coding.Issues catalog id code text) :
    (cache.setIfAbsent code text ttlSeconds).2.Sound coding ttlSeconds catalog := by
  unfold Cache.setIfAbsent
  split
  case isTrue => exact sound
  case isFalse =>
    split
    case isTrue expired =>
      refine ⟨sound.cached, fun positive => ?_⟩
      rcases expired with zero | dead
      · exact absurd zero positive
      · rw [sound.live positive code] at dead
        cases dead
    case isFalse =>
      refine ⟨fun other owner found => ?_, sound.live⟩
      simp only [Cache.get?, Std.ExtTreeMap.getElem?_insert, Std.compare_eq_iff_eq] at found
      split at found
      case isTrue same =>
        subst same
        cases found
        exact ⟨id, issued⟩
      case isFalse => exact sound.cached other owner found

/-- A cache stays sound when an entry is removed. -/
theorem delete (sound : cache.Sound coding ttlSeconds catalog) (code : String) :
    (cache.delete code).2.Sound coding ttlSeconds catalog where
  cached other owner found := by
    simp only [Cache.delete, Cache.get?, Std.ExtTreeMap.getElem?_erase] at found
    split at found
    case isTrue => cases found
    case isFalse => exact sound.cached other owner found
  live positive other := by
    have alive := sound.live positive other
    simp only [Cache.delete, Std.ExtTreeMap.contains_erase, alive, Bool.and_false]

/-- Removing several entries leaves a cache sound. -/
theorem evict {outage : Outage} {codes : List String}
    (sound : cache.Sound coding ttlSeconds catalog) :
    (Syndication.evict outage codes).Ensures (Cache.Sound coding ttlSeconds catalog)
      (fun _ _ => True) cache := by
  induction codes generalizing cache with
  | nil => exact meets_pure sound trivial
  | cons code rest inductionHypothesis =>
    have removed : (outage.cacheDelete code).Ensures (Cache.Sound coding ttlSeconds catalog)
        (fun _ _ => True) cache := Outage.ensures_onCache sound (sound.delete code) trivial
    refine removed.followed fun _ later sound _ => ?_
    exact (inductionHypothesis sound).followed fun _ _ sound _ => meets_pure sound trivial

/-- Copying an issued text leaves a cache sound. -/
theorem reconcileEntry {ε : Type} {outage : Outage} {entry : String × String} {id : Int64}
    (report : ReconcileReport) (sound : cache.Sound coding ttlSeconds catalog)
    (issued : coding.Issues catalog id entry.1 entry.2) :
    (Syndication.reconcileEntry outage ttlSeconds entry report :
      Attempt Cache ε ReconcileReport).Ensures (Cache.Sound coding ttlSeconds catalog)
      (fun _ _ => True) cache := by
  have written : (outage.setIfAbsent entry.1 entry.2 ttlSeconds).Ensures
      (Cache.Sound coding ttlSeconds catalog) (fun _ _ => True) cache :=
    Outage.ensures_onCache sound (sound.setIfAbsent issued) trivial
  refine written.settled.followed fun outcome later sound _ => ?_
  rcases outcome with cause | created
  · exact meets_pure sound trivial
  · cases created with
    | true => exact meets_pure sound trivial
    | false =>
      have found : (outage.cacheGet entry.1).Ensures (Cache.Sound coding ttlSeconds catalog)
          (fun _ _ => True) later := Outage.ensures_onCache sound sound trivial
      exact found.settled.followed fun _ _ sound _ => meets_pure sound trivial

/-- Copying issued texts leaves a cache sound. -/
theorem reconcileEntries {ε : Type} {outage : Outage} {entries : List (String × String)}
    (report : ReconcileReport) (sound : cache.Sound coding ttlSeconds catalog)
    (issued : ∀ entry ∈ entries, ∃ id, coding.Issues catalog id entry.1 entry.2) :
    (Syndication.reconcileEntries outage ttlSeconds entries report :
      Attempt Cache ε ReconcileReport).Ensures (Cache.Sound coding ttlSeconds catalog)
      (fun _ _ => True) cache := by
  induction entries generalizing cache report with
  | nil => exact meets_pure sound trivial
  | cons entry rest inductionHypothesis =>
    rw [List.forall_mem_cons] at issued
    obtain ⟨⟨id, entryIssued⟩, restIssued⟩ := issued
    exact (sound.reconcileEntry report entryIssued).followed fun report later sound _ =>
      inductionHypothesis report sound restIssued

end Cache.Sound

/-! ## Operations of the pipeline -/

namespace Backend.Sound

variable {backend : Backend} {outage : Outage}

/-- Empty services are sound. -/
theorem empty : Backend.empty.Sound coding ttlSeconds catalog := ⟨.empty, .empty⟩

/-- A reconciliation pass leaves the services sound: what it copies was published. -/
theorem reconcile (sound : backend.Sound coding ttlSeconds catalog) :
    (Syndication.reconcile outage ttlSeconds).Ensures (Backend.Sound coding ttlSeconds catalog)
      (fun _ _ => True) backend := by
  have records : (outage.loadRecords.mapError ReconcileError.store).Ensures
      (Store.Sound coding catalog) (fun listed later => listed = later.records.toList)
      backend.store :=
    (Outage.ensures_onStore sound.store ⟨sound.store, fun _ same => by cases same; rfl⟩).wrapped
  have loaded : (loadHashes outage).Ensures (Store.Sound coding catalog)
      (fun flattened _ => ∀ entry ∈ flattened.1.toList,
        ∃ id, coding.Issues catalog id entry.1 entry.2) backend.store := by
    refine records.followed fun listed later sound same => meets_pure sound fun entry member => ?_
    obtain ⟨code, text⟩ := entry
    rw [same] at member
    have found := Std.ExtTreeMap.mem_toList_iff_getElem?_eq_some.mp member
    obtain ⟨⟨id, assigned⟩, _⟩ := Store.flattened_iff.mp found
    exact ⟨id, sound.recorded id code text assigned⟩
  refine Meets.followed (Backend.ensures_onStore loaded fun _ store => ⟨store, sound.cache⟩) ?_
  intro flattened later sound issued
  exact Backend.ensures_onCache (sound.cache.reconcileEntries _ issued)
    fun _ cache => ⟨sound.store, cache⟩

/-- Purging leaves the services sound. -/
theorem purgeRetired {id : Int64} (sound : backend.Sound coding ttlSeconds catalog) :
    (Syndication.purgeRetired coding outage id).Ensures (Backend.Sound coding ttlSeconds catalog)
      (fun _ _ => True) backend := by
  have looked : ((outage.getProduct id).mapError ViewError.store).Ensures
      (Store.Sound coding catalog) (fun found later => later.products[id]? = found)
      backend.store :=
    (Outage.ensures_onStore sound.store ⟨sound.store, fun _ same => by cases same; rfl⟩).wrapped
  refine Meets.followed (Backend.ensures_onStore looked fun _ store => ⟨store, sound.cache⟩) ?_
  intro found later sound stored
  cases found with
  | none => exact ⟨sound, nofun⟩
  | some product =>
    have formed : ((Attempt.ofExcept (product.materialize coding)).mapError
        ViewError.integrity).Ensures (Backend.Sound coding ttlSeconds catalog)
        (fun current later => product.materialize coding = .ok current ∧
          later.store.products[id]? = some product) later := by
      refine Meets.wrapped (meets_ofExcept ?_ ?_)
      · exact sound
      · exact fun _ formed => ⟨formed, stored⟩
    refine formed.followed fun current later sound ⟨formed, stored⟩ => ?_
    have replaced : ((outage.replaceHashes id current.hashes).mapError ViewError.store).Ensures
        (Store.Sound coding catalog) (fun _ _ => True) later.store :=
      (Outage.ensures_onStore sound.store
        ⟨sound.store.replaceHashes stored formed, fun _ _ => trivial⟩).wrapped
    refine Meets.followed
      (Backend.ensures_onStore replaced fun _ store => ⟨store, sound.cache⟩) ?_
    intro retired later sound _
    refine Meets.followed
      (Backend.ensures_onCache sound.cache.evict.wrapped fun _ cache => ⟨sound.store, cache⟩) ?_
    exact fun _ _ sound _ => meets_pure sound trivial

end Backend.Sound

namespace Pipeline

variable {γ : Type} {world : World γ}

/-- A stage pass leaves the services sound. -/
theorem sound_runStage (pipeline : Pipeline γ) {stage : Stage} {outage : PassOutage}
    (sound : world.backend.Sound pipeline.coding ttlSeconds catalog) :
    (pipeline.runStage outage stage).Ensures
      (fun later => later.backend.Sound pipeline.coding ttlSeconds catalog) (fun _ _ => True)
      world := by
  have likeness := Product.SameOffered.likeness catalog
  have served : pipeline.ServesStage (Product.SameOffered catalog) stage Alone
      (pipeline.runStage outage stage) (fun _ _ => True) world :=
    pipeline.serves_runStage (.alone likeness) sound.store.agrees
  have alone : (pipeline.runStage outage stage).Meets Alone
      (World.WithinStore fun before after =>
        ∃ id, before.Advances pipeline.coding (Product.SameOffered catalog) stage id after)
      (fun _ _ => True) world :=
    served.weaken (fun _ _ nothing => congrArg World.store nothing) (fun _ _ same => same)
      fun _ _ _ => trivial
  have framed := alone.frame
    (fun later => later.backend.Sound pipeline.coding ttlSeconds catalog)
    (fun _ _ sound nothing => nothing ▸ sound)
    (fun before after sound ⟨⟨id, advanced⟩, cache⟩ => by
      refine ⟨sound.store.advances advanced, ?_⟩
      show after.cache.Sound _ _ _
      rw [cache]
      exact sound.cache)
    sound
  exact framed.weaken (fun _ _ same => same) (fun _ _ _ => trivial)
    fun _ _ reached => ⟨reached.2, fun _ _ => trivial⟩

/-- A sync pass leaves the services sound. -/
theorem sound_runSync (pipeline : Pipeline γ) {outage : Stage → PassOutage}
    (sound : world.backend.Sound pipeline.coding ttlSeconds catalog) :
    (pipeline.runSync outage).Ensures
      (fun later => later.backend.Sound pipeline.coding ttlSeconds catalog) (fun _ _ => True)
      world := by
  unfold runSync
  refine (pipeline.sound_runStage sound).followed fun _ _ sound _ => ?_
  refine (pipeline.sound_runStage sound).followed fun _ _ sound _ => ?_
  refine (pipeline.sound_runStage sound).followed fun _ _ sound _ => ?_
  exact meets_pure sound trivial

/-- A reconciliation pass leaves the services sound. -/
theorem sound_runReconcile (pipeline : Pipeline γ) {outage : Outage}
    (sound : world.backend.Sound pipeline.coding pipeline.ttlSeconds catalog) :
    (pipeline.runReconcile outage).Ensures
      (fun later => later.backend.Sound pipeline.coding pipeline.ttlSeconds catalog)
      (fun _ _ => True) world := by
  refine Meets.followed (World.ensures_onBackend sound.reconcile.wrapped fun _ sound => sound) ?_
  intro report later sound _
  exact Meets.followed (World.ensures_measure sound) fun _ _ sound _ => meets_pure sound trivial

end Pipeline

variable {γ : Type} {pipeline : Pipeline γ} {outside : γ} {world : World γ}

/-- Every admissible operation leaves the services sound. -/
theorem Operation.sound_perform (operation : Operation γ)
    (admissible : operation.Admissible catalog world)
    (sound : world.backend.Sound pipeline.coding pipeline.ttlSeconds catalog) :
    (operation.perform pipeline world).backend.Sound pipeline.coding pipeline.ttlSeconds
      catalog := by
  cases operation with
  | ingest product outage =>
    have taken : (outage.upsertProduct product).Ensures (Store.Sound pipeline.coding catalog)
        (fun _ _ => True) world.store :=
      Outage.ensures_onStore sound.store
        ⟨sound.store.upsertProduct admissible.1 admissible.2, fun _ _ => trivial⟩
    have inWorld : (World.onStore (outage.upsertProduct product)).Ensures
        (fun later : World γ => later.backend.Sound pipeline.coding pipeline.ttlSeconds catalog)
        _ world := World.ensures_onStore taken fun _ store => ⟨store, sound.cache⟩
    exact (meets_alone_iff.mp inWorld).1
  | pass stage collaborators outage =>
    have passed : ({ pipeline with collaborators }.runStage outage stage).Ensures
        (fun later : World γ => later.backend.Sound pipeline.coding pipeline.ttlSeconds catalog)
        _ world := Pipeline.sound_runStage { pipeline with collaborators } sound
    exact (meets_alone_iff.mp passed).1
  | sync collaborators outage =>
    have passed : ({ pipeline with collaborators }.runSync outage).Ensures
        (fun later : World γ => later.backend.Sound pipeline.coding pipeline.ttlSeconds catalog)
        _ world := Pipeline.sound_runSync { pipeline with collaborators } sound
    exact (meets_alone_iff.mp passed).1
  | reconcile outage => exact (meets_alone_iff.mp (pipeline.sound_runReconcile sound)).1
  | purge id outage =>
    have purged : (pipeline.purge outage id).Ensures
        (fun later : World γ => later.backend.Sound pipeline.coding pipeline.ttlSeconds catalog)
        _ world := World.ensures_onBackend sound.purgeRetired.wrapped fun _ sound => sound
    exact (meets_alone_iff.mp purged).1
  | evict code outage =>
    have removed : (outage.cacheDelete code).Ensures
        (Cache.Sound pipeline.coding pipeline.ttlSeconds catalog) (fun _ _ => True) world.cache :=
      Outage.ensures_onCache sound.cache (sound.cache.delete code) trivial
    have inWorld : (World.onCache (outage.cacheDelete code)).Ensures
        (fun later : World γ => later.backend.Sound pipeline.coding pipeline.ttlSeconds catalog)
        _ world := World.ensures_onCache removed fun _ cache => ⟨sound.store, cache⟩
    exact (meets_alone_iff.mp inWorld).1
  | assign id url tripImageId => exact ⟨sound.store.assignImage id url tripImageId, sound.cache⟩

/-- The services are sound in every reachable world. -/
theorem Reachable.sound (reachable : Reachable pipeline catalog outside world) :
    world.backend.Sound pipeline.coding pipeline.ttlSeconds catalog := by
  induction reachable with
  | start => exact .empty
  | next operation _ admissible inductionHypothesis =>
    exact operation.sound_perform admissible inductionHypothesis

/-! ## Results -/

/-- Stage outputs agree with the stored product in every reachable world: where the flag of a
stage is set, the store shows what the stage derives from the product as it is stored now. For
the view that is the materialized view, with a record that has all its texts; for the images
their keys in the queue; and for the content a payload with the product's identifier, version,
title, policy and texts. -/
theorem Reachable.stage_outputs_agree (reachable : Reachable pipeline catalog outside world)
    {id : Int64} {product : Product} {stage : Stage}
    (stored : world.store.products[id]? = some product)
    (complete : product.status.isComplete stage = true) :
    world.store.Shows pipeline.coding product stage := by
  obtain ⟨source, same, shown⟩ :=
    reachable.sound.store.agrees.shown id product stage stored complete
  exact shown.of_sameOffer same.1

/-- The published tour has completed the content stage, and what is stored for it agrees with
it. -/
theorem Tour.published_outputs_agree : ∃ product : Product,
    (published plainCoding).store.products[(7 : Int64)]? = some product ∧
      product.status.isComplete .content = true ∧
      (published plainCoding).store.Shows plainCoding product .content := by
  have stored : (published plainCoding).store.products[(7 : Int64)]? =
      some { product with status := .contentSynced } := by decide +kernel
  exact ⟨_, stored, rfl, (reachable_published plainCoding).stage_outputs_agree stored rfl⟩

/-- An issued text has its code and names a unit of the product it was issued for. -/
theorem Coding.Issues.addressed {id : Int64} {code text : String}
    (issued : coding.Issues catalog id code text) :
    coding.code text = .ok code ∧ ∃ plu, Plu.read text = .ok plu ∧ plu.productId = id := by
  obtain ⟨source, materialized, _, rfl, formed, assigned⟩ := issued
  obtain ⟨expanded, _, assigns⟩ := source.materialize_ok formed
  obtain ⟨textIn, coded⟩ := (assigns code text).mp assigned
  obtain ⟨unit, unitIn, rfl⟩ := List.mem_map.mp textIn
  have wellFormed := (source.expand_ok expanded).1.wellFormed unit unitIn
  exact ⟨coded, unit, Plu.read_text unit wellFormed, Product.productId_of_mem_units unitIn⟩

/-- Everything that order creation can see is addressed by its content, in every reachable
world and whatever assigns codes: a text in a record has its code and names a unit of the
record's product, a text in the cache has its code, and so has a text that a code resolves to. -/
theorem Reachable.content_addressed (reachable : Reachable pipeline catalog outside world) :
    (∀ (id : Int64) (code text : String), (world.store.record id)[code]? = some text →
      pipeline.coding.code text = .ok code ∧ ∃ plu, Plu.read text = .ok plu ∧ plu.productId = id) ∧
    (∀ code text : String, world.cache.get? code = some text →
      pipeline.coding.code text = .ok code) ∧
    ∀ (outage : Outage) (code text : String),
      ((Pipeline.resolve outage code).runOn world).1 = .ok text →
        pipeline.coding.code text = .ok code := by
  have cached : ∀ code text : String, world.cache.get? code = some text →
      pipeline.coding.code text = .ok code := by
    intro code text found
    obtain ⟨id, issued⟩ := reachable.sound.cache.cached code text found
    exact issued.addressed.1
  refine ⟨fun id code text assigned => ?_, cached, fun outage code text resolved => ?_⟩
  · exact (reachable.sound.store.recorded id code text assigned).addressed
  · rw [Pipeline.result_resolve, resolvePlu_ok_iff] at resolved
    exact cached code text resolved.2.2

/-- The text of the published tour is in its record under its code and can be read. -/
theorem Tour.published_content_addressed :
    ((published plainCoding).store.record 7)["7|1|4||"]? = some "7|1|4||" ∧
      plainCoding.code "7|1|4||" = .ok "7|1|4||" ∧
      ∃ plu, Plu.read "7|1|4||" = .ok plu ∧ plu.productId = 7 := by
  have recorded : ((published plainCoding).store.record 7)["7|1|4||"]? = some "7|1|4||" := by
    decide +kernel
  exact ⟨recorded, (reachable_published plainCoding).content_addressed.1 7 _ _ recorded⟩

end Syndication
