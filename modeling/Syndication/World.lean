import Syndication.Backend
import Syndication.Metrics

/-!
# The world of the pipeline

The pipeline works on the two services, on the state of the collaborators and on what
has been measured. Measurements follow from what was done and influence nothing.
-/

namespace Syndication

/-- What a pipeline works on. -/
structure World (γ : Type) where
  backend : Backend
  outside : γ
  metrics : Metrics

namespace World

variable {γ ε α : Type}

/-- A world with empty services. -/
def initial (outside : γ) : World γ := ⟨Backend.empty, outside, Metrics.empty⟩

/-- The document store of a world. -/
def store (world : World γ) : Store := world.backend.store

/-- The cache of a world. -/
def cache (world : World γ) : Cache := world.backend.cache

/-- The services as a part of the world. -/
def backendPart : Part (World γ) Backend where
  get := World.backend
  set world backend := { world with backend }

/-- The store as a part of the world. -/
def storePart : Part (World γ) Store := Backend.storePart.within backendPart

/-- The cache as a part of the world. -/
def cachePart : Part (World γ) Cache := Backend.cachePart.within backendPart

/-- The state of the collaborators as a part of the world. -/
def outsidePart : Part (World γ) γ where
  get := World.outside
  set world outside := { world with outside }

/-- An attempt on the services. -/
def onBackend (attempt : Attempt Backend ε α) : Attempt (World γ) ε α :=
  attempt.focus backendPart

/-- An attempt on the store. -/
def onStore (attempt : Attempt Store ε α) : Attempt (World γ) ε α := attempt.focus storePart

/-- An attempt on the cache. -/
def onCache (attempt : Attempt Cache ε α) : Attempt (World γ) ε α := attempt.focus cachePart

/-- An attempt on the collaborators' state. -/
def onOutside (attempt : Attempt γ ε α) : Attempt (World γ) ε α := attempt.focus outsidePart

/-- Changes what has been measured. -/
def measure (change : Metrics → Metrics) : Attempt (World γ) ε Unit :=
  Attempt.update fun world => { world with metrics := change world.metrics }

end World

end Syndication
