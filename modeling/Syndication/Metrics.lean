import Std.Data.ExtTreeMap

/-!
# Measurements

The catalog of measurements is fixed: each has a name, a kind and a description, and
some are labelled. What has been measured is kept by series, a measurement together
with its label. A counter exists from its first increment, even by zero; a histogram
keeps every value recorded. Durations are recorded without their value, since no
clock runs inside this library.
-/

namespace Syndication

/-- The kinds of measurements. -/
inductive MetricKind where
  | counter
  | gauge
  | histogram
  deriving DecidableEq, Repr

/-- The name of a kind. -/
def MetricKind.name : MetricKind → String
  | .counter => "Counter"
  | .gauge => "Gauge"
  | .histogram => "Histogram"

/-- The measurements. -/
inductive Metric where
  | stageDuration
  | stageItemSucceeded
  | stageItemFailed
  | pluIntegrityError
  | reconcileDuration
  | reconcileKeys
  | reconcileCreated
  | reconcileConflict
  | reconcileFailed
  | placeCacheHit
  | placeCacheMiss
  | pluResolve
  deriving DecidableEq, Repr

namespace Metric

/-- Every measurement, in the order of the catalog. -/
def all : List Metric :=
  [.stageDuration, .stageItemSucceeded, .stageItemFailed, .pluIntegrityError, .reconcileDuration,
    .reconcileKeys, .reconcileCreated, .reconcileConflict, .reconcileFailed, .placeCacheHit,
    .placeCacheMiss, .pluResolve]

/-- The name of a measurement. -/
def name : Metric → String
  | .stageDuration => "pipeline.stage.duration"
  | .stageItemSucceeded => "pipeline.stage.item.succeeded"
  | .stageItemFailed => "pipeline.stage.item.failed"
  | .pluIntegrityError => "plu.integrity_error"
  | .reconcileDuration => "reconcile.duration"
  | .reconcileKeys => "reconcile.keys"
  | .reconcileCreated => "reconcile.created"
  | .reconcileConflict => "reconcile.conflict"
  | .reconcileFailed => "reconcile.failed"
  | .placeCacheHit => "place_cache.hit"
  | .placeCacheMiss => "place_cache.miss"
  | .pluResolve => "plu.resolve"

/-- The kind of a measurement. -/
def kind : Metric → MetricKind
  | .stageDuration | .reconcileDuration | .reconcileKeys => .histogram
  | _ => .counter

/-- What a measurement means. -/
def description : Metric → String
  | .stageDuration => "Time to run one pass of a pipeline stage in seconds. Tagged with stage"
  | .stageItemSucceeded => "Number of products a stage completed. Tagged with stage"
  | .stageItemFailed => "Number of products a stage failed on. Tagged with stage"
  | .pluIntegrityError =>
    "Number of products rejected because of a hash collision or malformed PLU"
  | .reconcileDuration => "Time to complete a cache reconciliation pass in seconds"
  | .reconcileKeys => "Number of PLU hashes read from the document store per pass"
  | .reconcileCreated => "Number of PLU hashes written to the cache"
  | .reconcileConflict => "Number of PLU hashes whose cached or durable value disagrees"
  | .reconcileFailed => "Number of PLU hashes the cache rejected"
  | .placeCacheHit => "Number of geocoding lookups served from the place cache"
  | .placeCacheMiss => "Number of geocoding lookups sent to the geocoder"
  | .pluResolve => "Number of PLU hash lookups. Tagged with result"

end Metric

/-- A measurement with the label, a name and a value, of one of its series. -/
structure Series where
  metric : Metric
  label : Option (String × String)
  deriving DecidableEq, Repr

/-- The name of a series: the measurement's, with the label in braces where there is one. -/
def Series.name (series : Series) : String :=
  match series.label with
  | none => series.metric.name
  | some (key, value) => series.metric.name ++ "\x7b" ++ key ++ "=" ++ value ++ "\x7d"

/-- Everything measured so far, by the name of the series. -/
structure Metrics where
  counters : Std.ExtTreeMap String Nat
  histograms : Std.ExtTreeMap String (List (Option Nat))

namespace Metrics

/-- Nothing has been measured. -/
def empty : Metrics := ⟨∅, ∅⟩

/-- Increments a counter. -/
def count (metrics : Metrics) (series : Series) (amount : Nat) : Metrics :=
  { metrics with counters :=
      metrics.counters.insert series.name (metrics.counters.getD series.name 0 + amount) }

/-- Records a value; none stands for a duration. -/
def sample (metrics : Metrics) (series : Series) (value : Option Nat) : Metrics :=
  { metrics with histograms :=
      metrics.histograms.insert series.name (metrics.histograms.getD series.name [] ++ [value]) }

end Metrics

end Syndication
