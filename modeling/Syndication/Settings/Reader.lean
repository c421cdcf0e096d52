import Syndication.Document.Source
import Syndication.Settings.Pipeline
import Syndication.Url.Reader

/-!
# Reading the settings of the pipeline

The settings are read from any document format. Each group of settings is a structure
of its own, and a group that is missing has its standard values; a group may not be
nothing, except for the catalog. Numbers are bounded by the words they are meant for.

The source of the partner's categories is told by its `type`. It is taken as a whole
before that is known, so there a value is what it looks like.
-/

namespace Syndication

/-- The largest number of a 64-bit word. -/
def word64Limit : Nat := Nat.pow 2 64 - 1

/-- The largest number of a 32-bit word. -/
def word32Limit : Nat := Nat.pow 2 32 - 1

/-- The largest number of a 16-bit word. -/
def word16Limit : Nat := Nat.pow 2 16 - 1

namespace PipelineSettings

variable {δ : Type} [Source δ]

/-- An address. -/
def readUrl? (value : δ) : Option Url := (Source.text? value).bind Url.read?

/-- The listener. Both of its settings have to be given. -/
def readListener? (value : δ) : Option Listener := do
  let fields ← Fields.read? ["host", "port"] value
  let host ← fields.required "host" Source.text?
  let port ← fields.required "port" (Source.bounded? word16Limit)
  some ⟨host, port⟩

/-- The path of the catalog. -/
def readCatalog? (value : δ) : Option String := do
  let fields ← Fields.read? ["seed_file"] value
  fields.required "seed_file" Source.text?

/-- The length of codes. -/
def readCodeLength? (value : δ) : Option Nat := do
  let fields ← Fields.read? ["hash_length"] value
  fields.defaulted "hash_length" defaultCodeLength (Source.bounded? word64Limit)

/-- The intervals of the loops. -/
def readIntervals? (value : δ) : Option LoopIntervals := do
  let standard := LoopIntervals.standard
  let fields ← Fields.read? ["sync_interval_secs", "reconcile_interval_secs"] value
  let sync ← fields.defaulted "sync_interval_secs" standard.sync (Source.bounded? word64Limit)
  let reconcile ←
    fields.defaulted "reconcile_interval_secs" standard.reconcile (Source.bounded? word64Limit)
  some ⟨sync, reconcile⟩

/-- The limits of the cache. -/
def readLimits? (value : δ) : Option CacheLimits := do
  let standard := CacheLimits.standard
  let fields ← Fields.read? ["plu_ttl_secs", "max_capacity", "place_capacity"] value
  let codeSeconds ←
    fields.defaulted "plu_ttl_secs" standard.codeSeconds (Source.bounded? word64Limit)
  let codes ← fields.defaulted "max_capacity" standard.codes (Source.bounded? word64Limit)
  let places ← fields.defaulted "place_capacity" standard.places (Source.bounded? word64Limit)
  some ⟨codeSeconds, codes, places⟩

/-- A collaborator over the network. -/
def readRemote? (value : δ) : Option RemoteSettings := do
  let fields ← Fields.read? ["url", "max_retries"] value
  let url ← fields.required "url" readUrl?
  let retries ← fields.defaulted "max_retries" standardRetries (Source.bounded? word32Limit)
  some ⟨url, retries⟩

/-- One entry of a table of categories. -/
def readTableEntry? (entry : Whole × Whole) : Option (String × List String) := do
  let (key, value) ← Whole.named? entry
  let categories ← Source.listOf? Whole.text? value
  some (key, categories)

/-- A table of categories. Of two entries with one key the later one counts. -/
def readTable? (value : Whole) : Option CategoryTable := do
  let entries ← (← value.entries?).mapM readTableEntry?
  some (entries.foldl (fun table entry => table.insert entry.1 entry.2) ∅)

/-- The source of the partner's categories. -/
def readCategories? (value : δ) : Option CategorySettings := do
  let whole ← Source.whole? value
  match ← whole.kind? "type" with
  | ("http", rest) => (readRemote? rest).map .remote
  | ("static", rest) => do
    let fields ← Fields.read? ["mappings"] rest
    (fields.required "mappings" readTable?).map .table
  | _ => none

/-- The names of the groups of settings, in order. -/
def groupNames : List String :=
  ["listener", "catalog", "codec", "scheduler", "cache", "geocoder", "category_mapper"]

/-- The settings that a value describes. -/
def read? (value : δ) : Option PipelineSettings := do
  let fields ← Fields.read? groupNames value
  let listener ← fields.defaulted "listener" Listener.standard readListener?
  let catalog ← fields.optional "catalog" readCatalog?
  let codeLength ← fields.defaulted "codec" defaultCodeLength readCodeLength?
  let intervals ← fields.defaulted "scheduler" LoopIntervals.standard readIntervals?
  let limits ← fields.defaulted "cache" CacheLimits.standard readLimits?
  let geocoder ← fields.required "geocoder" readRemote?
  let categories ← fields.required "category_mapper" readCategories?
  some ⟨listener, catalog, codeLength, intervals, limits, geocoder, categories⟩

end PipelineSettings

end Syndication
