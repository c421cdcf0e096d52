import Syndication.Collaborator.CategoryTable
import Syndication.Plu.Code
import Syndication.Url.Basic

/-!
# Settings of the pipeline

The settings say where the service listens, what it starts with, how long codes are,
how often the loops run, how much is remembered for how long, and whom the content
stage asks. All but the collaborators have a value of their own when they are not
given.

Settings can be read and still be unusable. They are checked in a fixed order and the
first problem is reported; settings without a problem are the ones that the service
accepts.
-/

namespace Syndication

/-- Where the service interface listens. -/
structure Listener where
  host : String
  port : Nat
  deriving DecidableEq, Repr

/-- The listener unless another one is given. -/
def Listener.standard : Listener := ⟨"127.0.0.1", 3000⟩

/-- How often the loops run, in seconds. -/
structure LoopIntervals where
  sync : Nat
  reconcile : Nat
  deriving DecidableEq, Repr

/-- The intervals unless others are given. -/
def LoopIntervals.standard : LoopIntervals := ⟨30, 60⟩

/-- For how many seconds the cache holds a code, and how many codes and places there is
room for. -/
structure CacheLimits where
  codeSeconds : Nat
  codes : Nat
  places : Nat
  deriving DecidableEq, Repr

/-- The limits unless others are given. -/
def CacheLimits.standard : CacheLimits := ⟨600, 1000000, 10000⟩

/-- A collaborator that is asked over the network. -/
structure RemoteSettings where
  url : Url
  retries : Nat
  deriving DecidableEq, Repr

/-- How often a request is repeated unless it is said. -/
def standardRetries : Nat := 3

/-- The most repetitions that can be set. -/
def retriesLimit : Nat := 10

/-- Where the partner's categories come from. -/
inductive CategorySettings where
  | remote (settings : RemoteSettings)
  | table (table : CategoryTable)

/-- The settings of the pipeline. The catalog is the path of the file that seeds the
store. -/
structure PipelineSettings where
  listener : Listener
  catalog : Option String
  codeLength : Nat
  intervals : LoopIntervals
  limits : CacheLimits
  geocoder : RemoteSettings
  categories : CategorySettings

/-- A length of time that must not be zero. -/
inductive Interval where
  | sync
  | reconcile
  | codes
  deriving DecidableEq, Repr

/-- The name under which an interval is set. -/
def Interval.name : Interval → String
  | .sync => "sync_interval_secs"
  | .reconcile => "reconcile_interval_secs"
  | .codes => "plu_ttl_secs"

/-- Why settings are unusable. -/
inductive SettingsError where
  | zeroPort
  | invalidCodeLength (length : Nat)
  | zeroInterval (interval : Interval)
  | zeroCapacity
  | tooManyRetries (retries : Nat)
  | noPartnerCategories (key : String)
  deriving DecidableEq, Repr

/-- The message of a settings error. -/
def SettingsError.message : SettingsError → String
  | .zeroPort => "Port cannot be 0"
  | .invalidCodeLength length =>
    "Hash length must be between 1 and " ++ toString maxCodeLength ++ ", got " ++ toString length
  | .zeroInterval interval => "Interval " ++ interval.name ++ " cannot be 0"
  | .zeroCapacity => "Cache capacity cannot be 0"
  | .tooManyRetries retries =>
    "max_retries must be at most " ++ toString retriesLimit ++ ", got " ++ toString retries
  | .noPartnerCategories key => "Empty partner category list for " ++ key

namespace PipelineSettings

/-- The error of a condition that must not hold. -/
def problemIf (condition : Bool) (error : SettingsError) : Option SettingsError :=
  if condition then some error else none

/-- The error of a number of repetitions. -/
def retriesProblem? (retries : Nat) : Option SettingsError :=
  problemIf (retriesLimit < retries) (.tooManyRetries retries)

/-- The error of the source of the partner's categories that comes before the others. -/
def mapperRetriesProblem? : CategorySettings → Option SettingsError
  | .remote settings => retriesProblem? settings.retries
  | .table _ => none

/-- The error of the first category that has no partner category. -/
def tableProblem? : CategorySettings → Option SettingsError
  | .remote _ => none
  | .table table =>
    (table.toList.find? fun entry => entry.2.isEmpty).map fun entry =>
      .noPartnerCategories entry.1

/-- The errors of settings in the order in which they are checked. -/
def problems (settings : PipelineSettings) : List (Option SettingsError) := [
  problemIf (settings.listener.port = 0) .zeroPort,
  problemIf (settings.codeLength = 0 || maxCodeLength < settings.codeLength)
    (.invalidCodeLength settings.codeLength),
  problemIf (settings.intervals.sync = 0) (.zeroInterval .sync),
  problemIf (settings.intervals.reconcile = 0) (.zeroInterval .reconcile),
  problemIf (settings.limits.codeSeconds = 0) (.zeroInterval .codes),
  problemIf (settings.limits.codes = 0 || settings.limits.places = 0) .zeroCapacity,
  retriesProblem? settings.geocoder.retries,
  mapperRetriesProblem? settings.categories,
  tableProblem? settings.categories]

/-- The first problem of settings, if they have one. -/
def problem? (settings : PipelineSettings) : Option SettingsError :=
  settings.problems.findSome? id

end PipelineSettings

end Syndication
