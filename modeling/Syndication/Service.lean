import Syndication.Api
import Syndication.Collaborator.PlaceMemo
import Syndication.Collaborator.Remote
import Syndication.Settings.Pipeline
import Syndication.Store.Catalog

/-!
# The service

Starting the service checks its settings, loads the catalog, sets the collaborators up,
starts the loops and only then listens, and the first step that fails tells why the
service does not run. The loops have made their first passes when listening begins.

A service that runs answers requests one after another.
-/

namespace Syndication

/-- Why a service does not start. -/
inductive StartError where
  | settings (cause : SettingsError)
  | catalog (cause : CatalogError)
  | collaborator (cause : CollaboratorError)
  /-- There is no place to listen at. -/
  | listener
  deriving DecidableEq, Repr

/-- The message of a start error. -/
def StartError.message : StartError → String
  | .settings cause => "invalid config: " ++ cause.message
  | .catalog cause => "could not load catalog: " ++ cause.message
  | .collaborator cause => "could not set up collaborator: " ++ cause.message
  | .listener => "API server error: IO error"

/-- A running service. The state of its collaborators is the memo of the geocoder and the
state of the network. -/
structure Service (τ : Type) where
  pipeline : Pipeline (PlaceMemo × τ)
  scheduler : Scheduler
  world : World (PlaceMemo × τ)

namespace Service

variable {τ : Type}

/-- A collaborator's endpoint that cannot be built is a wrong address. -/
def endpoint (built : Option Url) : Except CollaboratorError Url :=
  match built with
  | some url => .ok url
  | none => .error .invalidUrl

/-- The geocoder that settings name. It remembers the places it found. -/
def geocoderOf (network : Network τ) (settings : RemoteSettings) :
    Except CollaboratorError (Geocoder (PlaceMemo × τ)) := do
  let url ← endpoint (placeEndpoint? settings.url)
  return (Geocoder.remote network settings.retries url).memoized

/-- The category mapper that settings name. -/
def categoryMapperOf (network : Network τ) :
    CategorySettings → Except CollaboratorError (CategoryMapper (PlaceMemo × τ))
  | .table table => return table.mapper
  | .remote settings => do
    let url ← endpoint (categoryEndpoint? settings.url)
    return fun codes =>
      (CategoryMapper.remote network settings.retries url codes).focus
        { get := Prod.snd, set := fun state after => (state.1, after) }

/-- The collaborators that settings name. -/
def collaboratorsOf (network : Network τ) (settings : PipelineSettings) :
    Except CollaboratorError (Collaborators (PlaceMemo × τ)) := do
  let geocoder ← geocoderOf network settings.geocoder
  let categories ← categoryMapperOf network settings.categories
  return ⟨geocoder, categories⟩

/-- The pipeline that settings describe. -/
def pipelineOf (settings : PipelineSettings) (collaborators : Collaborators (PlaceMemo × τ)) :
    Pipeline (PlaceMemo × τ) :=
  ⟨⟨digestCode, settings.codeLength⟩, settings.limits.codeSeconds, collaborators⟩

/-- A service whose loops have been started on a store. -/
def launch (pipeline : Pipeline (PlaceMemo × τ)) (intervals : LoopIntervals) (store : Store)
    (outside : τ) : Service τ :=
  let world : World (PlaceMemo × τ) :=
    { World.initial (PlaceMemo.empty, outside) with backend := ⟨store, Cache.empty⟩ }
  let (scheduler, world) :=
    Scheduler.start pipeline Outage.none intervals.sync intervals.reconcile world
  ⟨pipeline, scheduler, world⟩

/-- Starts a service on a network, given the contents of the files that can be read. -/
def start (network : Network τ) (contents : String → Option String)
    (settings : PipelineSettings) (outside : τ) : Except StartError (Service τ) := do
  match settings.problem? with
  | some cause => throw (.settings cause)
  | none => pure ()
  let store ← (Store.load contents settings.catalog).mapError StartError.catalog
  let collaborators ← (collaboratorsOf network settings).mapError StartError.collaborator
  let service := launch (pipelineOf settings collaborators) settings.intervals store outside
  if settings.listener.host.isEmpty then throw .listener else return service

/-- Answers a request. -/
def answer (service : Service τ) (method path : String) : Response × Service τ :=
  let (response, world) :=
    Api.handle service.pipeline Outage.none service.scheduler method path service.world
  (response, { service with world })

/-- Lets some seconds pass. -/
def pass (service : Service τ) (seconds : Nat) : Service τ :=
  let (scheduler, world) :=
    Scheduler.advance service.pipeline Outage.none seconds service.scheduler service.world
  { service with scheduler, world }

end Service

end Syndication
