import Syndication.Pipeline
import Syndication.Proofs.Stage.Steps

/-!
# Stage passes

A pass lists its candidates in one operation and then serves them one after the other, each
as it was listed. When the list is read every candidate waits, and serving one of them does
not touch the product of another, so each still waits when its turn comes. Hence a pass keeps
agreement, with others acting as they may in between and whatever fails on the way.
-/

namespace Syndication

open Attempt

variable {γ ε α : Type} {alike : Product → Product → Prop} {stage : Stage}
  {candidate : Product} {others : Store → Store → Prop} {world : World γ} {outage : Outage}

/-- A candidate still waits after another product was served. -/
theorem Store.Awaits.elsewhere {coding : Coding} {before after : Store} {id : Int64}
    (advances : before.Advances coding alike stage id after) (different : candidate.id ≠ id)
    (awaits : before.Awaits alike stage candidate) : after.Awaits alike stage candidate where
  own := awaits.own
  incomplete product found :=
    awaits.incomplete product (advances.elsewhere candidate.id different ▸ found)
  same product found :=
    awaits.same product (advances.elsewhere candidate.id different ▸ found)

/-- Without outage the products that are ready are listed, and nothing is changed. -/
theorem runOn_candidates (stage : Stage) (store : Store) :
    (candidates Outage.none stage).runOn store = (.ok (store.readyFor stage), store) := rfl

namespace Pipeline

/-- An attempt serves a candidate in the world, as `Harmless.Serves` says it of the store. -/
abbrev Serves (pipeline : Pipeline γ) (alike : Product → Product → Prop) (stage : Stage)
    (candidate : Product) (others : Store → Store → Prop) (attempt : Attempt (World γ) ε α)
    (success : α → Store → Prop) (world : World γ) : Prop :=
  attempt.Meets (InvImage others World.store)
    (World.WithinStore (Store.Advances pipeline.coding alike stage candidate.id))
    (Outcome (fun later => later.store.Agrees pipeline.coding alike) fun value later =>
      success value later.store) world

/-- An attempt serves a stage: each of its operations advances the stage for some product, and
agreement holds at the end, with something more after a success. -/
abbrev ServesStage (pipeline : Pipeline γ) (alike : Product → Product → Prop) (stage : Stage)
    (others : Store → Store → Prop) (attempt : Attempt (World γ) ε α)
    (success : α → Store → Prop) (world : World γ) : Prop :=
  attempt.Meets (InvImage others World.store)
    (World.WithinStore fun before after =>
      ∃ id, before.Advances pipeline.coding alike stage id after)
    (Outcome (fun later => later.store.Agrees pipeline.coding alike) fun value later =>
      success value later.store) world

variable {pipeline : Pipeline γ}

/-- Work beside the store serves a candidate by leaving it alone. -/
theorem serves_besideStore (harmless : Harmless pipeline.coding alike stage others)
    (agrees : world.store.Agrees pipeline.coding alike)
    (awaits : world.store.Awaits alike stage candidate)
    {σ : Type} {part : Part (World γ) σ} {change : σ → σ → Prop} {attempt : Attempt σ ε α}
    {success : α → Prop}
    (apart : ∀ (world : World γ) (changed : σ), (part.set world changed).store = world.store)
    (readOnly : ∀ (world : World γ) (changed : σ), change (part.get world) changed →
      (part.set world changed).cache = world.cache)
    (met : attempt.Meets (fun _ _ => True) change
      (Outcome (fun _ => True) fun value _ => success value) (part.get world)) :
    pipeline.Serves alike stage candidate others (attempt.focus part)
      (fun value later => later.Awaits alike stage candidate ∧ success value) world := by
  have idle : ∀ store, Store.Advances pipeline.coding alike stage candidate.id store store := .refl
  have kept := World.meets_besideStore apart readOnly
    (fun before after (holds : before.Agrees pipeline.coding alike ∧
        before.Awaits alike stage candidate) acted =>
      ⟨harmless.agrees before after acted holds.1,
        harmless.awaited before after candidate acted holds.1 holds.2⟩)
    idle ⟨agrees, awaits⟩ met
  refine kept.weaken (fun _ _ same => same) (fun _ _ same => same) fun _ _ reached => ?_
  exact ⟨reached.1.1, fun value same => ⟨reached.1.2, reached.2 value same⟩⟩

/-- Building a payload serves a candidate of the content stage, and the payload describes the
candidate, whoever answered and whatever the cache held. -/
theorem serves_buildPayload (harmless : Harmless pipeline.coding alike .content others)
    (agrees : world.store.Agrees pipeline.coding alike)
    (awaits : world.store.Awaits alike .content candidate) :
    pipeline.Serves alike .content candidate others (pipeline.buildPayload outage candidate)
      (fun payload later => later.Awaits alike .content candidate ∧
        payload.Describes pipeline.coding candidate) world := by
  unfold buildPayload Syndication.buildPayload
  refine Meets.followed (serves_besideStore harmless agrees awaits (fun _ _ => rfl)
    (fun _ _ _ => rfl) (meets_anything _)) fun categories later agrees ⟨awaits, _⟩ => ?_
  refine Meets.followed (serves_besideStore harmless agrees awaits (fun _ _ => rfl)
    (fun _ _ _ => rfl) (meets_anything _)) fun points later agrees ⟨awaits, _⟩ => ?_
  have read : Harmless.Serves pipeline.coding alike .content candidate others
      ((outage.queuedImages candidate.id).mapError fun cause => BuildFailure.error (.store cause))
      (fun _ later => later.Awaits alike .content candidate) later.store := by
    refine Meets.wrapped (harmless.serves_read agrees awaits ?_)
    exact fun _ _ awaits => awaits
  refine Meets.followed (World.meets_onStore read) fun queued later agrees awaits => ?_
  refine Meets.followed (serves_besideStore harmless agrees awaits (fun _ _ => rfl)
    (fun _ _ same => same) meets_packageUnits.wrapped) ?_
  rintro units later agrees ⟨awaits, carried⟩
  exact meets_pure agrees ⟨awaits, ⟨rfl, rfl, rfl, rfl, rfl, carried⟩⟩

/-- Running a stage on a product serves it as a candidate of the stage. -/
theorem serves_process (harmless : Harmless pipeline.coding alike stage others)
    (agrees : world.store.Agrees pipeline.coding alike)
    (awaits : world.store.Awaits alike stage candidate) :
    pipeline.Serves alike stage candidate others (pipeline.process outage stage candidate)
      (fun _ later => later.Complete stage candidate.id) world := by
  cases stage with
  | view =>
    refine Meets.followed (World.meets_onStore (harmless.serves_publish agrees awaits).wrapped) ?_
    exact fun _ _ agrees complete => meets_pure agrees complete
  | image =>
    refine Meets.followed
      (World.meets_onStore (harmless.serves_queueImages agrees awaits).wrapped) ?_
    exact fun _ _ agrees complete => meets_pure agrees complete
  | content =>
    have syndicated : pipeline.Serves alike .content candidate others
        (pipeline.syndicate outage candidate)
        (fun _ later => later.Complete .content candidate.id) world := by
      refine Meets.followed (serves_buildPayload harmless agrees awaits).wrapped ?_
      intro payload later agrees ⟨awaits, describes⟩
      exact World.meets_onStore (harmless.serves_storePayload agrees awaits describes)
    refine Meets.followed syndicated.wrapped ?_
    exact fun _ _ agrees complete => meets_pure agrees complete

/-- Processing waiting candidates with different identifiers serves their stage.

Induct over the candidates. While the first is processed the others keep waiting: others let
them, and the operations of the first touch its own product only. -/
theorem serves_processAll (harmless : Harmless pipeline.coding alike stage others)
    {outages : Product → Outage} {candidates : List Product}
    (agrees : world.store.Agrees pipeline.coding alike)
    (awaits : ∀ candidate ∈ candidates, world.store.Awaits alike stage candidate)
    (distinct : candidates.Pairwise fun first second => first.id ≠ second.id)
    (tally : PassTally) :
    pipeline.ServesStage alike stage others
      (processAll (fun product => pipeline.process (outages product) stage product) candidates
        tally : Attempt (World γ) ε PassTally)
      (fun _ _ => True) world := by
  induction candidates generalizing world tally with
  | nil => exact meets_pure agrees trivial
  | cons candidate rest inductionHypothesis =>
    rw [List.forall_mem_cons] at awaits
    rw [List.pairwise_cons] at distinct
    have served : pipeline.Serves alike stage candidate others
        (pipeline.process (outages candidate) stage candidate) _ world :=
      serves_process harmless agrees awaits.1
    have waiting := served.frame
      (fun later => later.store.Agrees pipeline.coding alike ∧
        ∀ other ∈ rest, later.store.Awaits alike stage other)
      (fun before after holds acted => ⟨harmless.agrees _ _ acted holds.1, fun other member =>
        harmless.awaited _ _ other acted holds.1 (holds.2 other member)⟩)
      (fun before after holds advances => ⟨advances.1.agrees holds.1, fun other member =>
        (holds.2 other member).elsewhere advances.1 (distinct.1 other member).symm⟩)
      ⟨agrees, awaits.2⟩
    refine Meets.bind (Meets.weaken (fun _ _ same => same) ?wider (fun _ _ reached => reached)
      waiting.settle) ?continued ?failed
    case wider => exact fun before after advances => ⟨⟨candidate.id, advances.1⟩, advances.2⟩
    case continued =>
      rintro outcome later ⟨_, _, _, agrees, awaits⟩
      exact inductionHypothesis agrees awaits distinct.2 (tally.add outcome)
    case failed =>
      rintro cause later ⟨_, impossible, _⟩
      cases impossible

/-- The products that are listed for a stage wait for it, and their identifiers differ. -/
theorem meets_candidates {coding : Coding} (harmless : Harmless coding alike stage others)
    {store : Store} (agrees : store.Agrees coding alike) :
    (candidates outage stage).Meets others
      (fun before after => ∃ id, before.Advances coding alike stage id after)
      (Outcome (Store.Agrees coding alike) fun listed later =>
        (∀ candidate ∈ listed, later.Awaits alike stage candidate) ∧
          listed.Pairwise fun first second => first.id ≠ second.id) store := by
  have found : (outage.findProducts stage false).Meets others
      (fun before after => ∃ id, before.Advances coding alike stage id after)
      (Outcome (Store.Agrees coding alike) fun listed later =>
        listed = later.withFlag stage false) store := by
    refine Outage.meets_onStore (fun _ => ⟨agrees, nofun⟩) fun found acted => ?_
    refine ⟨⟨0, .refl found⟩, harmless.agrees store found acted agrees, fun listed same => ?_⟩
    cases same
    rfl
  refine found.followed fun listed later agrees same => ?_
  subst same
  refine meets_pure agrees ⟨fun candidate member => ?_, ?_⟩
  · obtain ⟨stored, unflagged⟩ := agrees.of_mem_withFlag (List.mem_filter.mp member).1
    exact agrees.awaits stored unflagged
  · exact agrees.distinct_withFlag.sublist List.filter_sublist

/-- A stage pass serves its stage, with harmless others acting in between. -/
theorem serves_runStage (pipeline : Pipeline γ)
    (harmless : Harmless pipeline.coding alike stage others) {passOutage : PassOutage}
    (agrees : world.store.Agrees pipeline.coding alike) :
    pipeline.ServesStage alike stage others (pipeline.runStage passOutage stage)
      (fun _ _ => True) world := by
  unfold runStage
  refine Meets.followed (World.meets_onStore (meets_candidates harmless agrees).wrapped) ?_
  intro listed later agrees ⟨awaits, distinct⟩
  refine Meets.followed (serves_processAll harmless agrees awaits distinct .empty) ?_
  intro tally later agrees _
  have measured : pipeline.ServesStage alike stage others
      (World.measure (Metrics.afterPass stage tally) : Attempt (World γ) PipelineError Unit)
      (fun _ _ => True) later := by
    refine meets_update fun found acted => ?_
    exact ⟨⟨⟨0, .refl found.store⟩, rfl⟩, harmless.agrees _ _ acted agrees, fun _ _ => trivial⟩
  exact measured.followed fun _ _ agrees _ => meets_pure agrees trivial

end Pipeline

end Syndication
