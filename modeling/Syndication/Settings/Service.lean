import Syndication.Settings.Reader
import Syndication.Yaml.Reader

/-!
# The configuration file

The configuration file of the service is a YAML mapping with the settings of the
pipeline, where metrics are sent, and what is logged. Without the settings for metrics
none are sent. Entries with other names are skipped.

Everything but the settings of the pipeline is taken as a whole before it is looked at,
the entries that are skipped included.
-/

namespace Syndication

/-- Where metrics are sent, and what their names start with. -/
structure MetricsSettings where
  host : String
  port : Nat
  namesStartWith : String
  deriving DecidableEq, Repr

/-- Where crashes are reported, and which events are logged. -/
structure LoggingSettings where
  crashReports : Option String
  filter : String
  deriving DecidableEq, Repr

/-- The filter unless another one is given. -/
def LoggingSettings.standardFilter : String := "info"

/-- What is logged unless it is said. -/
def LoggingSettings.standard : LoggingSettings := ⟨none, standardFilter⟩

/-- What the names of metrics start with unless it is said. -/
def MetricsSettings.standardStart : String := "tripsync"

/-- The settings in a configuration file. -/
structure ServiceSettings where
  metrics : Option MetricsSettings
  logging : LoggingSettings
  pipeline : PipelineSettings

namespace ServiceSettings

/-- Where metrics are sent. -/
def readMetrics? (value : Whole) : Option MetricsSettings := do
  let fields ← Fields.read? ["statsd_host", "statsd_port", "prefix"] value
  let host ← fields.required "statsd_host" Whole.text?
  let port ← fields.required "statsd_port" (Source.bounded? word16Limit)
  let start ← fields.defaulted "prefix" MetricsSettings.standardStart Whole.text?
  some ⟨host, port, start⟩

/-- What is logged. A list has to say where crashes are reported. -/
def readLogging? (value : Whole) : Option LoggingSettings := do
  let fields ← Fields.readAtLeast? 1 ["sentry_dsn", "filter"] value
  let crashReports ← fields.optional "sentry_dsn" Whole.text?
  let filter ← fields.defaulted "filter" LoggingSettings.standardFilter Whole.text?
  some ⟨crashReports, filter⟩

/-- A member of the file that is taken as a whole. -/
def wholeMember? (member : FieldKey × Yaml) : Option (FieldKey × Whole) :=
  (Source.whole? member.2).map fun value => (member.1, value)

/-- The settings that a YAML value describes. -/
def ofYaml? (value : Yaml) : Option ServiceSettings := do
  let members ← Source.members? value
  let (pipelines, others) := members.partition fun member => member.1 = .name "pipeline"
  let whole ← others.mapM wholeMember?
  let fields ← Fields.ofMembers? ["metrics", "logging"] whole
  let metrics ← fields.optional "metrics" readMetrics?
  let logging ← fields.defaulted "logging" LoggingSettings.standard readLogging?
  match pipelines with
  | [(_, settings)] => (PipelineSettings.read? settings).map (⟨metrics, logging, ·⟩)
  | _ => none

/-- The settings that the text of a configuration file describes. -/
def read? (text : String) : Option ServiceSettings := (Yaml.read? text).bind ofYaml?

end ServiceSettings

end Syndication
