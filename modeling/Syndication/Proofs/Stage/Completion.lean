import Syndication.Proofs.Stage.Passes
import Syndication.Proofs.Stage.Success

/-!
# What a pass completes

A pass without outage, with nobody else around, completes its stage for every product that was
ready and that the stage can succeed on. Products on which the stage fails do not get in the
way of the others: a failure is counted, the product stays as it is, and the pass goes on.

`Store.Promotes` says what a pass does to the products in any case, and `Store.Done` what is
reached: every product that can be expanded has completed a stage.
-/

namespace Syndication

open Attempt

namespace Store

/-- The products are the same up to their statuses, in which flags have only been set. -/
def Promotes (before after : Store) : Prop :=
  ∀ id : Int64, (before.products[id]? = none ∧ after.products[id]? = none) ∨
    ∃ (product : Product) (status : SyncStatus), before.products[id]? = some product ∧
      after.products[id]? = some { product with status } ∧
      ∀ stage, product.status.isComplete stage = true → status.isComplete stage = true

variable {coding : Coding} {alike : Product → Product → Prop} {stage : Stage} {id : Int64}
  {before after : Store}

/-- Every store promotes itself. -/
theorem Promotes.refl (store : Store) : store.Promotes store := by
  intro id
  cases found : store.products[id]? with
  | none => exact Or.inl ⟨rfl, rfl⟩
  | some product => exact Or.inr ⟨product, product.status, rfl, rfl, fun _ flagged => flagged⟩

/-- Promotions add up. -/
theorem Promotes.trans {middle : Store} (first : before.Promotes middle)
    (second : middle.Promotes after) : before.Promotes after := by
  intro id
  rcases first id with ⟨absent, absentThen⟩ | ⟨product, status, stored, storedThen, kept⟩
  · rcases second id with ⟨_, absentNow⟩ | ⟨_, _, present, _⟩
    · exact Or.inl ⟨absent, absentNow⟩
    · rw [absentThen] at present
      cases present
  · rcases second id with ⟨missing, _⟩ | ⟨later, final, present, storedNow, keptThen⟩
    · rw [storedThen] at missing
      cases missing
    · cases storedThen.symm.trans present
      exact Or.inr ⟨product, final, stored, storedNow, fun stage flagged =>
        keptThen stage (kept stage flagged)⟩

/-- Serving a candidate promotes. -/
theorem Advances.promotes (advanced : before.Advances coding alike stage id after) :
    before.Promotes after := by
  intro key
  have same : after.products[key]? = before.products[key]? →
      (before.products[key]? = none ∧ after.products[key]? = none) ∨
        ∃ (product : Product) (status : SyncStatus), before.products[key]? = some product ∧
          after.products[key]? = some { product with status } ∧
          ∀ stage, product.status.isComplete stage = true → status.isComplete stage = true := by
    intro unchanged
    rw [unchanged]
    exact Promotes.refl before key
  by_cases current : key = id
  · subst current
    rcases advanced.here with unchanged | ⟨product, status, stored, completed, storedNow⟩
    · exact same unchanged
    · exact Or.inr ⟨product, status, stored, storedNow, fun _ flagged =>
        SyncStatus.isComplete_mono_of_complete completed flagged⟩
  · exact same (advanced.elsewhere key current)

/-- A stored product was stored before with the same offer and at most its present flags. -/
theorem Promotes.origin (promotes : before.Promotes after) {product : Product}
    (stored : after.products[id]? = some product) :
    ∃ earlier, before.products[id]? = some earlier ∧ product.SameOffer earlier ∧
      ∀ stage, earlier.status.isComplete stage = true → product.status.isComplete stage = true := by
  rcases promotes id with ⟨_, absent⟩ | ⟨earlier, status, found, foundNow, kept⟩
  · rw [absent] at stored
    cases stored
  · cases foundNow.symm.trans stored
    exact ⟨earlier, found, .withStatus earlier status, kept⟩

/-- A complete stage stays complete. -/
theorem Promotes.complete (promotes : before.Promotes after) (complete : before.Complete stage id) :
    after.Complete stage id := by
  obtain ⟨product, stored, flagged⟩ := complete
  rcases promotes id with ⟨absent, _⟩ | ⟨earlier, status, found, foundNow, kept⟩
  · rw [absent] at stored
    cases stored
  · cases found.symm.trans stored
    exact ⟨_, foundNow, kept stage flagged⟩

/-- Every stored product that can be expanded has completed a stage. -/
def Done (coding : Coding) (stage : Stage) (store : Store) : Prop :=
  ∀ (id : Int64) (product : Product), store.products[id]? = some product →
    product.Codable coding → product.status.isComplete stage = true

/-- A stage that is done stays done. -/
theorem Promotes.done (promotes : before.Promotes after) (done : before.Done coding stage) :
    after.Done coding stage := by
  intro id product stored codable
  obtain ⟨earlier, found, same, kept⟩ := promotes.origin stored
  exact kept stage (done id earlier found (same.codable_iff.mp codable))

/-- When the content is done, no product is ready for another stage than the view: what has a
complete view can be expanded, and has completed every stage then. -/
theorem Agrees.readyFor_eq_nil {store : Store} (agrees : store.Agrees coding alike)
    (offer : ∀ left right, alike left right → left.SameOffer right)
    (done : store.Done coding .content) (later : stage ≠ .view) : store.readyFor stage = [] := by
  refine List.eq_nil_iff_forall_not_mem.mpr fun product listed => ?_
  obtain ⟨stored, ready⟩ := agrees.mem_readyFor_iff.mp listed
  have viewed : product.status.isComplete .view = true := by
    cases stage with
    | view => exact absurd rfl later
    | image => exact SyncStatus.isComplete_prerequisite_of_isReadyFor rfl ready
    | content =>
      exact SyncStatus.isComplete_prerequisite rfl
        (SyncStatus.isComplete_prerequisite_of_isReadyFor rfl ready)
  obtain ⟨source, like, materialized, formed, _⟩ := agrees.shown _ product .view stored viewed
  have codable : product.Codable coding := by
    refine Product.materialize_ok_iff.mp ⟨materialized, ?_⟩
    rw [(offer product source like).materialize_eq]
    exact formed
  have synced := SyncStatus.eq_contentSynced_of_isComplete (done _ product stored codable)
  rw [synced] at ready
  cases stage <;> cases ready

/-- When the content is done, the products that are ready for the view cannot be expanded. -/
theorem Agrees.not_codable_of_readyFor {store : Store} (agrees : store.Agrees coding alike)
    (done : store.Done coding .content) {product : Product}
    (listed : product ∈ store.readyFor stage) : ¬product.Codable coding := by
  intro codable
  obtain ⟨stored, ready⟩ := agrees.mem_readyFor_iff.mp listed
  have synced := SyncStatus.eq_contentSynced_of_isComplete (done _ product stored codable)
  rw [synced] at ready
  cases stage <;> cases ready

/-- A stage is done when the one before it is, and every product that was ready for it and can
be expanded has completed it. -/
theorem Done.of_pass (promotes : before.Promotes after)
    (prior : ∀ earlier, stage.prerequisite = some earlier → before.Done coding earlier)
    (completed : ∀ (id : Int64) (product : Product), before.products[id]? = some product →
      product.status.isReadyFor stage = true → product.Codable coding →
        after.Complete stage id) : after.Done coding stage := by
  intro id product stored codable
  obtain ⟨earlier, found, same, kept⟩ := promotes.origin stored
  have earlierCodable := same.codable_iff.mp codable
  cases flagged : earlier.status.isComplete stage with
  | true => exact kept stage flagged
  | false =>
    have ready := SyncStatus.isReadyFor_of_prerequisite flagged fun before isBefore =>
      prior before isBefore id earlier found earlierCodable
    obtain ⟨reached, storedNow, complete⟩ := completed id earlier found ready earlierCodable
    cases stored.symm.trans storedNow
    exact complete

end Store

namespace Pipeline

variable {γ ε : Type} {pipeline : Pipeline γ} {alike : Product → Product → Prop} {stage : Stage}
  {candidate : Product} {world : World γ}

/-- What a stage needs to succeed on a product: the product can be expanded and, for the
content, the collaborators answer and the cache covers the product. -/
def Equipped (pipeline : Pipeline γ) (stage : Stage) (cache : Cache) (product : Product) : Prop :=
  product.Codable pipeline.coding ∧ (stage = .content →
    pipeline.collaborators.Answer ∧ cache.Covers pipeline.coding product)

/-- A stage succeeds on a stored product that is ready when it is equipped for it. -/
theorem succeeds_process (stored : world.store.products[candidate.id]? = some candidate)
    (ready : candidate.status.isReadyFor stage = true)
    (equipped : pipeline.Equipped stage world.cache candidate) :
    (pipeline.process Outage.none stage candidate).Succeeds (fun _ _ => True) world := by
  cases stage with
  | view =>
    obtain ⟨materialized, formed⟩ := Product.materialize_ok_iff.mpr equipped.1
    exact (succeeds_process_view stored rfl ready formed).weaken fun _ _ _ => trivial
  | image => exact (succeeds_process_image stored rfl ready).weaken fun _ _ _ => trivial
  | content =>
    obtain ⟨answers, covered⟩ := equipped.2 rfl
    have syndicated : (pipeline.syndicate Outage.none candidate).Succeeds (fun _ _ => True)
        world := by
      refine Succeeds.followed (succeeds_buildPayload answers equipped.1 covered).wrapped ?_
      intro payload later same
      have storedLater : later.store.products[candidate.id]? = some candidate := by
        show later.backend.store.products[candidate.id]? = some candidate
        rw [same]
        exact stored
      have kept : (Outage.none.upsertContent payload).Succeeds
          (fun _ after => after.products = later.store.products) later.store :=
        succeeds_ofRun _ rfl rfl
      have paid : (storePayload Outage.none candidate payload).Succeeds (fun _ _ => True)
          later.store := by
        refine kept.wrapped.followed fun _ after unchanged => ?_
        rw [← unchanged] at storedLater
        exact (succeeds_completeStage storedLater rfl ready).wrapped.followed fun _ _ _ =>
          succeeds_pure trivial
      exact Succeeds.weaken (Succeeds.focus paid) fun _ _ _ => trivial
    exact syndicated.wrapped.followed fun _ _ _ => succeeds_pure trivial

/-- What serving a candidate did to a world: agreement holds, the cache is as it was, products
were only promoted, and those of other candidates are as they were. -/
structure Served (pipeline : Pipeline γ) (alike : Product → Product → Prop) (candidate : Product)
    (before after : World γ) : Prop where
  agrees : after.store.Agrees pipeline.coding alike
  cache : after.cache = before.cache
  promotes : before.store.Promotes after.store
  elsewhere : ∀ id, id ≠ candidate.id → after.store.products[id]? = before.store.products[id]?

/-- Processing a candidate serves it, and completes its stage if the stage is equipped for it.

What happens in any case follows from the rules that the stage keeps; that it succeeds was
shown by itself. -/
theorem settles_process (likeness : Likeness alike)
    (agrees : world.store.Agrees pipeline.coding alike)
    (stored : world.store.products[candidate.id]? = some candidate)
    (ready : candidate.status.isReadyFor stage = true) :
    ((pipeline.process Outage.none stage candidate).settle :
      Attempt (World γ) ε (Except StageError Unit)).Succeeds
      (fun _ later => pipeline.Served alike candidate world later ∧
        (pipeline.Equipped stage world.cache candidate →
          later.store.Complete stage candidate.id)) world := by
  have awaits := agrees.awaits stored (SyncStatus.isComplete_of_isReadyFor ready)
  have serves : pipeline.Serves alike stage candidate Alone
      (pipeline.process Outage.none stage candidate) _ world :=
    serves_process (.alone likeness) agrees awaits
  have alone : (pipeline.process Outage.none stage candidate).Meets Alone
      (World.WithinStore (Store.Advances pipeline.coding alike stage candidate.id))
      (Outcome (fun later => later.store.Agrees pipeline.coding alike) fun _ later =>
        later.store.Complete stage candidate.id) world :=
    serves.weaken (fun _ _ nothing => congrArg World.store nothing) (fun _ _ same => same)
      fun _ _ reached => reached
  have framed := alone.frame
    (fun later => later.cache = world.cache ∧ world.store.Promotes later.store ∧
      ∀ id, id ≠ candidate.id → later.store.products[id]? = world.store.products[id]?)
    (fun _ _ kept nothing => nothing ▸ kept)
    (fun _ _ kept advanced => ⟨advanced.2.trans kept.1, kept.2.1.trans advanced.1.promotes,
      fun id different => (advanced.1.elsewhere id different).trans (kept.2.2 id different)⟩)
    ⟨rfl, .refl world.store, fun _ _ => rfl⟩
  obtain ⟨⟨agreesLater, completes⟩, cache, promotes, elsewhere⟩ := meets_alone_iff.mp
    (framed.weaken (fun _ _ same => same) (fun _ _ _ => trivial) fun _ _ reached => reached)
  refine meets_alone_iff.mpr ?_
  rw [runOn_settle]
  refine ⟨_, rfl, ⟨agreesLater, cache, promotes, elsewhere⟩, fun equipped => ?_⟩
  obtain ⟨value, later, ran, _⟩ := (succeeds_process stored ready equipped).runs
  exact completes value (by rw [ran])

/-- Processing candidates that are stored as they were listed completes their stage for all
that it is equipped for.

Induct over the candidates. Serving the first leaves the others stored as they are, and what
the others do does not take its flag back. -/
theorem completes_processAll (likeness : Likeness alike) {candidates : List Product}
    (agrees : world.store.Agrees pipeline.coding alike)
    (stored : ∀ candidate ∈ candidates, world.store.products[candidate.id]? = some candidate)
    (ready : ∀ candidate ∈ candidates, candidate.status.isReadyFor stage = true)
    (distinct : candidates.Pairwise fun first second => first.id ≠ second.id)
    (tally : PassTally) :
    (processAll (fun product => pipeline.process Outage.none stage product) candidates tally :
      Attempt (World γ) ε PassTally).Succeeds
      (fun _ later => later.store.Agrees pipeline.coding alike ∧ later.cache = world.cache ∧
        world.store.Promotes later.store ∧
        ∀ candidate ∈ candidates, pipeline.Equipped stage world.cache candidate →
          later.store.Complete stage candidate.id) world := by
  induction candidates generalizing world tally with
  | nil => exact succeeds_pure ⟨agrees, rfl, .refl world.store, nofun⟩
  | cons candidate rest inductionHypothesis =>
    rw [List.forall_mem_cons] at stored ready
    rw [List.pairwise_cons] at distinct
    refine (settles_process likeness agrees stored.1 ready.1).followed ?_
    rintro outcome later ⟨served, completed⟩
    have storedRest : ∀ other ∈ rest, later.store.products[other.id]? = some other := by
      intro other member
      rw [served.elsewhere other.id (distinct.1 other member).symm]
      exact stored.2 other member
    have completedRest :=
      inductionHypothesis served.agrees storedRest ready.2 distinct.2 (tally.add outcome)
    refine completedRest.weaken fun reached final ⟨agrees, cache, promotes, completes⟩ => ?_
    refine ⟨agrees, cache.trans served.cache, served.promotes.trans promotes, ?_⟩
    rw [List.forall_mem_cons]
    constructor
    · exact fun equipped => promotes.complete (completed equipped)
    · exact fun other member equipped => completes other member (served.cache.symm ▸ equipped)

/-- What a pass without outage did: it reports on all products that were ready, agreement holds,
the cache is as it was, products were only promoted, and its stage is complete for those that
it was equipped for. -/
structure Passed (pipeline : Pipeline γ) (alike : Product → Product → Prop) (stage : Stage)
    (report : StageReport) (before after : World γ) : Prop where
  counted : report.candidates = (before.store.readyFor stage).length
  agrees : after.store.Agrees pipeline.coding alike
  cache : after.cache = before.cache
  promotes : before.store.Promotes after.store
  completes : ∀ candidate ∈ before.store.readyFor stage,
    pipeline.Equipped stage before.cache candidate → after.store.Complete stage candidate.id

/-- A pass without outage runs to a report. -/
theorem passes_runStage (likeness : Likeness alike)
    (agrees : world.store.Agrees pipeline.coding alike) :
    (pipeline.runStage Outage.none.throughout stage).Succeeds
      (fun report later => pipeline.Passed alike stage report world later) world := by
  have listed : (candidates Outage.none stage).Succeeds
      (fun listed later => listed = world.store.readyFor stage ∧ later = world.store)
      world.store := by
    refine meets_alone_iff.mpr ?_
    rw [runOn_candidates]
    exact ⟨_, rfl, rfl, rfl⟩
  refine Succeeds.followed (Succeeds.focus listed.wrapped) ?_
  rintro _ found ⟨_, same, rfl, rfl⟩
  obtain rfl : found = world := same.trans (World.storePart.set_get world)
  refine Succeeds.followed (completes_processAll likeness agrees ?_ ?_ ?_ .empty) ?_
  · exact fun candidate listed => (agrees.mem_readyFor_iff.mp listed).1
  · exact fun candidate listed => (agrees.mem_readyFor_iff.mp listed).2
  · exact agrees.distinct_withFlag.sublist List.filter_sublist
  · rintro tally later ⟨agreesLater, cache, promotes, completes⟩
    have measured : (World.measure (Metrics.afterPass stage tally) :
        Attempt (World γ) PipelineError Unit).Succeeds
        (fun _ after => after.backend = later.backend) later := succeeds_update rfl
    refine measured.followed fun _ after same => succeeds_pure ?_
    have store : after.store = later.store := congrArg Backend.store same
    exact {
      counted := rfl
      agrees := store ▸ agreesLater
      cache := (congrArg Backend.cache same).trans cache
      promotes := store ▸ promotes
      completes := fun candidate listed equipped => store ▸ completes candidate listed equipped }

/-- After a pass its stage is done, if the stage before it was and the pass was equipped for
every stored product that can be expanded. -/
theorem Passed.done {report : StageReport} {before after : World γ}
    (passed : pipeline.Passed alike stage report before after)
    (agrees : before.store.Agrees pipeline.coding alike)
    (prior : ∀ earlier, stage.prerequisite = some earlier →
      before.store.Done pipeline.coding earlier)
    (equipped : ∀ (id : Int64) (product : Product), before.store.products[id]? = some product →
      product.Codable pipeline.coding → pipeline.Equipped stage before.cache product) :
    after.store.Done pipeline.coding stage := by
  refine Store.Done.of_pass passed.promotes prior fun id product stored ready codable => ?_
  have placed := agrees.placed id product stored
  rw [← placed] at stored ⊢
  exact passed.completes product (agrees.mem_readyFor_iff.mpr ⟨stored, ready⟩)
    (equipped product.id product stored codable)

/-- A sync pass without outage runs to a report on three passes in a row. -/
theorem passes_runSync (likeness : Likeness alike)
    (agrees : world.store.Agrees pipeline.coding alike) :
    (pipeline.runSync fun _ => Outage.none.throughout).Succeeds
      (fun report later => ∃ viewed imaged, pipeline.Passed alike .view report.view world viewed ∧
        pipeline.Passed alike .image report.image viewed imaged ∧
        pipeline.Passed alike .content report.content imaged later) world := by
  unfold runSync
  refine (passes_runStage likeness agrees).followed fun view viewed passedView => ?_
  refine (passes_runStage likeness passedView.agrees).followed fun image imaged passedImage => ?_
  refine (passes_runStage likeness passedImage.agrees).followed fun content later passed => ?_
  exact succeeds_pure ⟨viewed, imaged, passedView, passedImage, passed⟩

end Pipeline

end Syndication
