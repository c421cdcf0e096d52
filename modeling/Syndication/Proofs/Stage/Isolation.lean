import Mathlib.Data.List.Basic
import Syndication.Proofs.Content.Sources
import Syndication.Proofs.Purge.Retirement
import Syndication.Proofs.Stage.Conclusion

/-!
# Isolation of products

A stage pass processes its candidates one after the other, and a failure of one is no business of
the others. Processing a product is confined to what the product has of the world, its dossier and
the cache. So with different identifiers every candidate ends up as if it had been the only one, in
whatever order they come, and the pass counts as many successes as there are candidates that succeed
alone.

That a pass serves each candidate as if it were alone holds for all confined attempts. The first
section shows it in this generality.
-/

namespace Syndication

open Attempt

/-! ## Confined attempts in a row -/

section ProcessAll

variable {σ υ ε : Type} {process : Product → Attempt σ StageError Unit} {candidates : List Product}

/-- What every candidate leaves alone is left alone by all of them. -/
theorem leaves_processAll {seen : σ → υ}
    (kept : ∀ candidate ∈ candidates, (process candidate).Leaves seen) (tally : PassTally) :
    (processAll process candidates tally : Attempt σ ε PassTally).Leaves seen := by
  induction candidates generalizing tally with
  | nil => exact leaves_ofExcept seen (.ok tally)
  | cons candidate rest inductionHypothesis =>
    rw [List.forall_mem_cons] at kept
    apply kept.1.settle.bind
    intro outcome _
    exact inductionHypothesis kept.2 (tally.add outcome)

/-- The results that each product has when it is processed alone. -/
def resultsAlone (process : Product → Attempt σ StageError Unit) (candidates : List Product)
    (state : σ) : List (Except StageError Unit) :=
  candidates.map fun candidate => ((process candidate).runOn state).1

/-- Candidates with different identifiers have the results that they have alone, and leave what they
leave alone.

Induct over the candidates. What the first does is not seen at the places of the others, and the
others do not act at the place of the first. -/
theorem runOn_processAll {seen : Int64 → σ → υ}
    (confined : ∀ candidate, (process candidate).Confined seen candidate.id)
    (distinct : candidates.Pairwise fun first second => first.id ≠ second.id) (tally : PassTally)
    (state : σ) :
    ((processAll process candidates tally : Attempt σ ε PassTally).runOn state).1 =
        .ok ((resultsAlone process candidates state).foldl PassTally.add tally) ∧
      ∀ candidate ∈ candidates,
        seen candidate.id
            ((processAll process candidates tally : Attempt σ ε PassTally).runOn state).2 =
          seen candidate.id ((process candidate).runOn state).2 := by
  induction candidates generalizing tally state with
  | nil => exact ⟨rfl, nofun⟩
  | cons candidate rest inductionHypothesis =>
    rw [List.pairwise_cons] at distinct
    obtain ⟨apart, distinctRest⟩ := distinct
    rw [processAll, runOn_bind, runOn_settle]
    rcases ran : (process candidate).runOn state with ⟨outcome, middle⟩
    have alike : ∀ other ∈ rest,
        ((process other).runOn middle).1 = ((process other).runOn state).1 ∧
          seen other.id ((process other).runOn middle).2 =
            seen other.id ((process other).runOn state).2 := by
      intro other member
      apply (confined other).determined
      have kept := (confined candidate).elsewhere other.id (apart other member).symm state
      rwa [ran] at kept
    have resultsRest : resultsAlone process rest middle = resultsAlone process rest state :=
      List.map_congr_left fun other member => (alike other member).1
    obtain ⟨result, reached⟩ := inductionHypothesis distinctRest (tally.add outcome) middle
    constructor
    · rw [result, resultsRest, resultsAlone, resultsAlone, List.map_cons, ran]
      rfl
    · rw [List.forall_mem_cons]
      constructor
      · have kept : (processAll process rest (tally.add outcome) :
            Attempt σ ε PassTally).Leaves (seen candidate.id) := by
          apply leaves_processAll
          intro other member
          exact (confined other).elsewhere candidate.id (apart other member)
        rw [ran]
        exact kept middle
      · intro other member
        exact (reached other member).trans (alike other member).2

end ProcessAll

/-! ## Counting results -/

namespace PassTally

variable {α : Type}

/-- The successes are counted. -/
theorem succeeded_foldl_add (tally : PassTally) (results : List (Except StageError α)) :
    (results.foldl add tally).succeeded = tally.succeeded + results.countP Except.isOk := by
  induction results generalizing tally with
  | nil => rfl
  | cons result rest inductionHypothesis =>
    rw [List.foldl_cons, inductionHypothesis, List.countP_cons]
    cases result with
    | error cause => rfl
    | ok value =>
      simp only [add, Except.isOk, Except.toBool, if_pos]
      omega

/-- Every outcome is counted as a success or as a failure. -/
theorem size_foldl_add (tally : PassTally) (results : List (Except StageError α)) :
    (results.foldl add tally).succeeded + (results.foldl add tally).failed =
      tally.succeeded + tally.failed + results.length := by
  induction results generalizing tally with
  | nil => rfl
  | cons result rest inductionHypothesis =>
    rw [List.foldl_cons, inductionHypothesis]
    cases result <;> simp [add] <;> omega

end PassTally

/-! ## Stages -/

namespace World

variable {γ ε α : Type} {id : Int64}

/-- What a product has of the world: its dossier, and the cache that all products share. -/
def share (id : Int64) (world : World γ) : Dossier × Cache := (world.store.dossier id, world.cache)

/-- Attempts that are confined to a dossier are confined to the share of its product. -/
theorem confined_onStore {attempt : Attempt Store ε α}
    (confined : attempt.Confined Store.dossier id) :
    (onStore attempt : Attempt (World γ) ε α).Confined share id := by
  constructor
  case determined =>
    apply confined.determined.focus
    · exact fun _ _ same => congrArg Prod.fst same
    · intro left right _ _ same changed
      have cache : left.cache = right.cache := congrArg Prod.snd same
      exact Prod.ext changed cache
  case elsewhere =>
    intro other different
    apply (confined.elsewhere other different).focus
    exact fun world _ kept => Prod.ext kept rfl

/-- Products with the same share have the same sources. -/
theorem sources_eq_of_share {first second : World γ} (same : first.share id = second.share id) :
    first.sources id = second.sources id := by
  have queue : first.store.queuedImages id = second.store.queuedImages id :=
    congrArg (Dossier.queue ∘ Prod.fst) same
  have cache : first.cache = second.cache := congrArg Prod.snd same
  exact Prod.ext (congrArg (List.filterMap ImageRecord.tripImageId) queue) cache

end World

namespace Pipeline

variable {γ : Type} {pipeline : Pipeline γ}

/-- A build leaves every share as it is. -/
theorem share_buildPayload (pipeline : Pipeline γ) (outage : Outage) (product : Product)
    (id : Int64) : (pipeline.buildPayload outage product).Leaves (World.share id) := by
  intro world
  have kept := (pipeline.buildPayload_outcome outage product world).2
  simp only [World.share, World.store, World.cache, kept]

/-- Building a payload is confined to the product if the collaborators have no state. -/
theorem confined_buildPayload (stateless : pipeline.collaborators.Stateless) (outage : Outage)
    (product : Product) :
    (pipeline.buildPayload outage product).Confined World.share product.id := by
  constructor
  case determined =>
    intro first second same
    rw [share_buildPayload, share_buildPayload]
    refine ⟨?_, same⟩
    exact (determined_buildPayload stateless outage product first second
      (World.sources_eq_of_share same)).1
  case elsewhere => exact fun other _ => pipeline.share_buildPayload outage product other

/-- Syndicating a product is confined to the product if the collaborators have no state. -/
theorem confined_syndicate (stateless : pipeline.collaborators.Stateless) (outage : Outage)
    (product : Product) : (pipeline.syndicate outage product).Confined World.share product.id := by
  apply ((confined_buildPayload stateless outage product).mapError _).bind
  intro payload yielded
  obtain ⟨world, built⟩ := yielded.of_mapError
  have owner := productId_of_buildPayload (Prod.ext built rfl)
  exact World.confined_onStore (confined_storePayload outage owner)

/-- Processing a product is confined to the product if the collaborators have no state. -/
theorem confined_process (stateless : pipeline.collaborators.Stateless) (outage : Outage)
    (stage : Stage) (product : Product) :
    (pipeline.process outage stage product).Confined World.share product.id := by
  cases stage with
  | view =>
    have published := confined_publish pipeline.coding outage product
    exact (World.confined_onStore (published.mapError _)).bind fun _ _ =>
      confined_ofExcept _ _ (.ok ())
  | image =>
    have queued := confined_queueImages outage product
    exact (World.confined_onStore (queued.mapError _)).bind fun _ _ =>
      confined_ofExcept _ _ (.ok ())
  | content =>
    have syndicated := confined_syndicate stateless outage product
    exact (syndicated.mapError _).bind fun _ _ => confined_ofExcept _ _ (.ok ())

/-- Processing a product leaves the cache as it is. -/
theorem cache_process (pipeline : Pipeline γ) (outage : Outage) (stage : Stage)
    (product : Product) : (pipeline.process outage stage product).Leaves World.cache := by
  cases stage with
  | view => exact (World.cache_onStore _).bind fun _ _ => leaves_ofExcept _ (.ok ())
  | image => exact (World.cache_onStore _).bind fun _ _ => leaves_ofExcept _ (.ok ())
  | content =>
    have syndicated := pipeline.leaves_syndicate outage product
    exact (syndicated.mapError _).bind fun _ _ => leaves_ofExcept _ (.ok ())

/-- Runs a stage on a product, under an outage of its own. -/
def serve (pipeline : Pipeline γ) (outages : Product → Outage) (stage : Stage) (product : Product) :
    Attempt (World γ) StageError Unit := pipeline.process (outages product) stage product

/-- A stage pass once its candidates are listed: each is served, and what was done is measured and
reported. -/
def serveAll (pipeline : Pipeline γ) (outages : Product → Outage) (stage : Stage)
    (candidates : List Product) : Attempt (World γ) PipelineError StageReport := do
  let tally ← processAll (pipeline.serve outages stage) candidates .empty
  World.measure (Metrics.afterPass stage tally)
  return ⟨stage, candidates.length, tally.succeeded, tally.failed⟩

/-- A stage pass lists its candidates and serves them. -/
theorem runStage_eq_serveAll (pipeline : Pipeline γ) (outage : PassOutage) (stage : Stage) :
    pipeline.runStage outage stage =
      World.onStore ((candidates outage.listing stage).mapError .store) >>=
        pipeline.serveAll outage.processing stage := rfl

/-- A pass whose listing gives some candidates serves them. -/
theorem runOn_runStage_of_listed {outage : PassOutage} {stage : Stage} {listed : List Product}
    {world : World γ}
    (listing : ((candidates outage.listing stage).runOn world.store).1 = .ok listed) :
    (pipeline.runStage outage stage).runOn world =
      (pipeline.serveAll outage.processing stage listed).runOn world := by
  have kept : ((candidates outage.listing stage).runOn world.store).2 = world.store := by
    rw [candidates, runOn_bind_pure, Outage.findProducts, Outage.runOn_onStore]
    cases outage.listing.store (.findProducts stage false) <;> rfl
  rw [runStage_eq_serveAll, runOn_bind, World.runOn_onStore, runOn_mapError, listing, kept]
  rfl

/-- Every candidate was served as if it had been the only one, and the report says so. -/
structure ServedApart (pipeline : Pipeline γ) (outages : Product → Outage) (stage : Stage)
    (candidates : List Product) (before : World γ) (report : StageReport) (after : World γ) :
    Prop where
  each : ∀ candidate ∈ candidates, after.store.dossier candidate.id =
    ((pipeline.serve outages stage candidate).runOn before).2.store.dossier candidate.id
  others : ∀ id, (∀ candidate ∈ candidates, candidate.id ≠ id) →
    after.store.dossier id = before.store.dossier id
  cache : after.cache = before.cache
  named : report.stage = stage
  listed : report.candidates = candidates.length
  counted : report.candidates = report.succeeded + report.failed
  succeeded : report.succeeded = candidates.countP fun candidate =>
    ((pipeline.serve outages stage candidate).runOn before).1.isOk

variable {outages : Product → Outage} {stage : Stage} {candidates reordered : List Product}
  {before after : World γ} {report : StageReport}

/-- Serving candidates with different identifiers serves each as if it were alone. -/
theorem serveAll_apart (stateless : pipeline.collaborators.Stateless)
    (distinct : candidates.Pairwise fun first second => first.id ≠ second.id)
    (outages : Product → Outage) (stage : Stage) (before : World γ) :
    ∃ report after, (pipeline.serveAll outages stage candidates).runOn before =
        (.ok report, after) ∧
      pipeline.ServedApart outages stage candidates before report after := by
  have confined : ∀ candidate, (pipeline.serve outages stage candidate).Confined World.share
      candidate.id :=
    fun candidate => confined_process stateless (outages candidate) stage candidate
  have others : ∀ id, (∀ candidate ∈ candidates, candidate.id ≠ id) →
      (processAll (pipeline.serve outages stage) candidates .empty :
        Attempt (World γ) PipelineError PassTally).Leaves (World.share id) := by
    intro id absent
    apply leaves_processAll
    intro candidate member
    exact (confined candidate).elsewhere id (absent candidate member).symm
  have cache : (processAll (pipeline.serve outages stage) candidates .empty :
      Attempt (World γ) PipelineError PassTally).Leaves World.cache := by
    apply leaves_processAll
    intro candidate _
    exact pipeline.cache_process (outages candidate) stage candidate
  obtain ⟨result, reached⟩ :=
    runOn_processAll (ε := PipelineError) confined distinct .empty before
  have ran := Prod.ext (y := (_, _)) result rfl
  have succeeded := PassTally.succeeded_foldl_add .empty
    (resultsAlone (pipeline.serve outages stage) candidates before)
  have counted := PassTally.size_foldl_add .empty
    (resultsAlone (pipeline.serve outages stage) candidates before)
  rw [resultsAlone, List.countP_map] at succeeded
  rw [resultsAlone, List.length_map] at counted
  rw [serveAll, runOn_bind, ran]
  refine ⟨_, _, rfl, ?_⟩
  constructor
  case each => exact fun candidate member => congrArg Prod.fst (reached candidate member)
  case others => exact fun id absent => congrArg Prod.fst (others id absent before)
  case cache => exact cache before
  case named => rfl
  case listed => rfl
  case counted => exact (counted.trans (Nat.zero_add _)).symm
  case succeeded => exact succeeded.trans (Nat.zero_add _)

/-- Serving the same candidates in another order gives the same report. -/
theorem ServedApart.report_eq {other : World γ} {report' : StageReport}
    (served : pipeline.ServedApart outages stage candidates before report after)
    (servedThen : pipeline.ServedApart outages stage reordered before report' other)
    (same : candidates.Perm reordered) : report' = report := by
  have succeeded : report'.succeeded = report.succeeded := by
    rw [served.succeeded, servedThen.succeeded, same.countP_eq]
  have listed : report'.candidates = report.candidates := by
    rw [served.listed, servedThen.listed, same.length_eq]
  have counted := served.counted
  have countedThen := servedThen.counted
  have failed : report'.failed = report.failed := by omega
  have named : report'.stage = report.stage := by rw [served.named, servedThen.named]
  cases report
  cases report'
  rw [StageReport.mk.injEq]
  exact ⟨named, listed, succeeded, failed⟩

/-- Serving the same candidates in another order leaves every product with the same dossier. -/
theorem ServedApart.dossier_eq {other : World γ} {report' : StageReport}
    (served : pipeline.ServedApart outages stage candidates before report after)
    (servedThen : pipeline.ServedApart outages stage reordered before report' other)
    (same : candidates.Perm reordered) (id : Int64) :
    other.store.dossier id = after.store.dossier id := by
  by_cases present : ∃ candidate ∈ candidates, candidate.id = id
  · obtain ⟨candidate, member, rfl⟩ := present
    rw [served.each candidate member, servedThen.each candidate (same.mem_iff.mp member)]
  · have absent : ∀ candidate ∈ candidates, candidate.id ≠ id :=
      fun candidate member own => present ⟨candidate, member, own⟩
    rw [served.others id absent, servedThen.others id fun candidate member =>
      absent candidate (same.mem_iff.mpr member)]

/-- A stage pass isolates its products, whatever becomes of each of them, as long as the
collaborators have no state.

Every candidate ends up with the dossier that it has after being processed alone, and every other
product keeps its own. Processing the candidates in another order leads to the same dossiers and to
the same report, which counts as many successes as there are candidates that succeed alone, and the
others as failures. A stage pass that lists these candidates is such a pass. -/
theorem stage_isolates (stateless : pipeline.collaborators.Stateless)
    (distinct : candidates.Pairwise fun first second => first.id ≠ second.id)
    (outages : Product → Outage) (stage : Stage) (before : World γ) :
    ∃ report after,
      (pipeline.serveAll outages stage candidates).runOn before = (.ok report, after) ∧
      pipeline.ServedApart outages stage candidates before report after ∧
      (∀ reordered, candidates.Perm reordered → ∃ other,
        (pipeline.serveAll outages stage reordered).runOn before = (.ok report, other) ∧
          ∀ id, other.store.dossier id = after.store.dossier id) ∧
      ∀ listing : Outage,
        ((Syndication.candidates listing stage).runOn before.store).1 = .ok candidates →
          (pipeline.runStage ⟨listing, outages⟩ stage).runOn before = (.ok report, after) := by
  obtain ⟨report, after, ran, served⟩ := serveAll_apart stateless distinct outages stage before
  refine ⟨report, after, ran, served, ?_, ?_⟩
  · intro reordered same
    have distinctThen : reordered.Pairwise fun first second => first.id ≠ second.id :=
      same.pairwise distinct fun different => different.symm
    obtain ⟨report', other, ranThen, servedThen⟩ :=
      serveAll_apart stateless distinctThen outages stage before
    obtain rfl := served.report_eq servedThen same
    exact ⟨other, ranThen, served.dossier_eq servedThen same⟩
  · intro listing listed
    have pass : (pipeline.runStage ⟨listing, outages⟩ stage).runOn before =
        (pipeline.serveAll outages stage candidates).runOn before :=
      runOn_runStage_of_listed listed
    exact pass.trans ran

end Pipeline

/-! ## A product that cannot be sold -/

namespace Tour

/-- Another tour, with a departure that cannot be part of a text. -/
def unsellable : Product where
  id := 8
  version := 1
  title := "Evening tour"
  categories := []
  groups := [⟨1, "Tickets", [⟨2, "Entry", .schedule,
    [⟨3, "Evening", [⟨4, "Adult", true, true, []⟩], ["20|30"], []⟩]⟩]⟩]
  facilities := []
  images := []
  status := .pending

/-- Both tours and the neighbour have come in. -/
def threeIngested : World Unit :=
  [product, unsellable, neighbour].foldl (fun world entry =>
    (Operation.ingest entry Outage.none).perform (pipeline plainCoding) world) (World.initial ())

/-- The view stage publishes the tour and the neighbour, although the tour between them fails, and
does the same in the opposite order. -/
theorem unsellable_isolated :
    ∃ report after, ((pipeline plainCoding).serveAll (fun _ => Outage.none) .view
        [product, unsellable, neighbour]).runOn threeIngested = (.ok report, after) ∧
      report = ⟨.view, 3, 2, 1⟩ ∧
      ∃ other, ((pipeline plainCoding).serveAll (fun _ => Outage.none) .view
          [neighbour, unsellable, product]).runOn threeIngested = (.ok report, other) ∧
        ∀ id, other.store.dossier id = after.store.dossier id := by
  have stateless : (pipeline plainCoding).collaborators.Stateless :=
    ⟨fun _ _ _ _ => rfl, fun _ _ _ => rfl⟩
  obtain ⟨report, after, ran, served, reordered, _⟩ := Pipeline.stage_isolates stateless
    (by decide : [product, unsellable, neighbour].Pairwise fun first second => first.id ≠ second.id)
    (fun _ => Outage.none) .view threeIngested
  have succeeded : report.succeeded = 2 := served.succeeded.trans (by decide +kernel)
  have listed : report.candidates = 3 := served.listed
  have counted := served.counted
  have failed : report.failed = 1 := by omega
  refine ⟨report, after, ran, ?_, reordered [neighbour, unsellable, product] (by decide)⟩
  cases report
  cases served.named
  cases succeeded
  cases listed
  cases failed
  rfl

end Tour

end Syndication
