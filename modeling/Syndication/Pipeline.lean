import Syndication.Cache.Reconcile
import Syndication.Cache.Resolve
import Syndication.Content.Build
import Syndication.Image.Queue
import Syndication.View.Publish
import Syndication.World

/-!
# The publication pipeline

A stage pass first lists its candidates, the stored products that are ready for the
stage, and then processes each of them as it was listed. A failure is counted and
the next candidate is processed anyway; only a failure to list the candidates ends
the pass. A sync pass runs the three stages in order.

Services can go out of reach and come back while a pass is under way, so a pass is
given an outage for the listing and one for each candidate.
-/

namespace Syndication

/-- What a pipeline works with: how texts are coded, how long cache entries live, and whom
it asks. -/
structure Pipeline (γ : Type) where
  coding : Coding
  ttlSeconds : Nat
  collaborators : Collaborators γ

/-- Why a pass or a purge could not run. -/
inductive PipelineError where
  | store (cause : StoreError)
  | reconcile (cause : ReconcileError)
  | materialize (cause : ViewError)
  | stopped
  deriving DecidableEq, Repr

/-- The message of a pipeline error. -/
def PipelineError.message : PipelineError → String
  | .store cause => "document store error: " ++ cause.message
  | .reconcile cause => "reconciliation failed: " ++ cause.message
  | .materialize cause => "materialization failed: " ++ cause.message
  | .stopped => "scheduler is shut down"

/-- Why a stage failed on a product. -/
inductive StageError where
  | view (cause : ViewError)
  | image (cause : ImageError)
  | content (cause : ContentError)
  deriving DecidableEq, Repr

/-- True for errors that the product itself causes. -/
def StageError.isIntegrity : StageError → Bool
  | .view cause => cause.isIntegrity
  | .image _ => false
  | .content cause => cause.isIntegrity

/-- What a stage pass did. -/
structure StageReport where
  stage : Stage
  candidates : Nat
  succeeded : Nat
  failed : Nat
  deriving DecidableEq, Repr

/-- What is out of reach during a stage pass: while its candidates are listed, and while each
of them is processed. -/
structure PassOutage where
  listing : Outage
  processing : Product → Outage

/-- An outage that does not change during a pass. -/
def Outage.throughout (outage : Outage) : PassOutage := ⟨outage, fun _ => outage⟩

/-- What a sync pass did. -/
structure SyncReport where
  view : StageReport
  image : StageReport
  content : StageReport
  deriving DecidableEq, Repr

/-- How many candidates succeeded and failed, and how many of the failures were caused by
the product itself. -/
structure PassTally where
  succeeded : Nat
  failed : Nat
  integrity : Nat
  deriving DecidableEq, Repr

namespace PassTally

/-- No candidate has been processed. -/
def empty : PassTally := ⟨0, 0, 0⟩

/-- Counts one more outcome. -/
def add {α : Type} (tally : PassTally) : Except StageError α → PassTally
  | .ok _ => { tally with succeeded := tally.succeeded + 1 }
  | .error cause =>
    { tally with
      failed := tally.failed + 1
      integrity := tally.integrity + if cause.isIntegrity then 1 else 0 }

end PassTally

/-- The products that are ready for a stage. -/
def candidates (outage : Outage) (stage : Stage) : Attempt Store StoreError (List Product) := do
  let products ← outage.findProducts stage false
  return products.filter fun product => product.status.isReadyFor stage

/-- Processes products in order, whatever the outcome of each, and counts the outcomes. -/
def processAll {σ ε : Type} (process : Product → Attempt σ StageError Unit) :
    List Product → PassTally → Attempt σ ε PassTally
  | [], tally => return tally
  | product :: rest, tally => do
    let outcome ← (process product).settle
    processAll process rest (tally.add outcome)

namespace Metrics

/-- The series of a measurement for a stage. -/
def ofStage (metric : Metric) (stage : Stage) : Series := ⟨metric, some ("stage", stage.name)⟩

/-- What a stage pass adds. Integrity errors are only counted when there are some. -/
def afterPass (stage : Stage) (tally : PassTally) (metrics : Metrics) : Metrics :=
  let checked :=
    if tally.integrity = 0 then metrics
    else metrics.count ⟨.pluIntegrityError, none⟩ tally.integrity
  ((checked.sample (ofStage .stageDuration stage) none).count
    (ofStage .stageItemSucceeded stage) tally.succeeded).count
    (ofStage .stageItemFailed stage) tally.failed

/-- What a reconciliation pass adds. -/
def afterReconcile (report : ReconcileReport) (metrics : Metrics) : Metrics :=
  ((((metrics.sample ⟨.reconcileDuration, none⟩ none).sample ⟨.reconcileKeys, none⟩
    (some report.total)).count ⟨.reconcileCreated, none⟩ report.created).count
    ⟨.reconcileConflict, none⟩ report.conflicts).count ⟨.reconcileFailed, none⟩ report.failed

/-- What a resolution adds. -/
def afterResolve (label : String) (metrics : Metrics) : Metrics :=
  metrics.count ⟨.pluResolve, some ("result", label)⟩ 1

end Metrics

namespace Pipeline

variable {γ : Type}

/-- Builds the payload of a product. -/
def buildPayload (pipeline : Pipeline γ) (outage : Outage) (product : Product) :
    Attempt (World γ) BuildFailure Payload :=
  Syndication.buildPayload pipeline.coding pipeline.collaborators outage product

/-- Builds and stores the payload of a product and marks the content stage complete. A
crash during the build becomes an error. -/
def syndicate (pipeline : Pipeline γ) (outage : Outage) (product : Product) :
    Attempt (World γ) ContentError ContentOutcome := do
  let payload ← (pipeline.buildPayload outage product).mapError BuildFailure.toError
  World.onStore (storePayload outage product payload)

/-- Runs one stage on one product. -/
def process (pipeline : Pipeline γ) (outage : Outage) (stage : Stage) (product : Product) :
    Attempt (World γ) StageError Unit :=
  match stage with
  | .view => do
    let _ ← World.onStore ((publish pipeline.coding outage product).mapError .view)
  | .image => do
    let _ ← World.onStore ((queueImages outage product).mapError .image)
  | .content => do
    let _ ← (pipeline.syndicate outage product).mapError .content

/-- One pass of a stage. -/
def runStage (pipeline : Pipeline γ) (outage : PassOutage) (stage : Stage) :
    Attempt (World γ) PipelineError StageReport := do
  let products ← World.onStore ((candidates outage.listing stage).mapError .store)
  let tally ← processAll (fun product => pipeline.process (outage.processing product) stage product)
    products .empty
  World.measure (Metrics.afterPass stage tally)
  return ⟨stage, products.length, tally.succeeded, tally.failed⟩

/-- One sync pass: the three stages in order. -/
def runSync (pipeline : Pipeline γ) (outage : Stage → PassOutage) :
    Attempt (World γ) PipelineError SyncReport := do
  let view ← pipeline.runStage (outage .view) .view
  let image ← pipeline.runStage (outage .image) .image
  let content ← pipeline.runStage (outage .content) .content
  return ⟨view, image, content⟩

/-- One reconciliation pass. -/
def runReconcile (pipeline : Pipeline γ) (outage : Outage) :
    Attempt (World γ) PipelineError ReconcileReport := do
  let report ← World.onBackend ((reconcile outage pipeline.ttlSeconds).mapError .reconcile)
  World.measure (Metrics.afterReconcile report)
  return report

/-- Drops the codes that a product no longer produces. -/
def purge (pipeline : Pipeline γ) (outage : Outage) (id : Int64) :
    Attempt (World γ) PipelineError PurgeReport :=
  World.onBackend ((purgeRetired pipeline.coding outage id).mapError .materialize)

/-- Resolves a code and counts how that ended. -/
def resolve (outage : Outage) (code : String) : Attempt (World γ) ResolveError String := do
  let result ← (World.onCache (resolvePlu outage code)).settle
  World.measure (Metrics.afterResolve (resolutionLabel result))
  Attempt.ofExcept result

end Pipeline

end Syndication
