import Syndication.Proofs.Attempt.Confinement
import Syndication.Proofs.Content.Payload

/-!
# What a payload depends on

Besides the product a payload has three sources: the collaborators' answers, the identifiers that
were assigned to the product's queued images, and the cache. With collaborators whose answers do not
depend on what they were asked before, a build from the same identifiers and the same cache gives
the same payload, or the same failure.
-/

namespace Syndication

open Attempt

variable {γ ε α : Type} {outage : Outage} {product : Product} {id : Int64}

/-- The answers of collaborators do not depend on their state. -/
structure Collaborators.Stateless (collaborators : Collaborators γ) : Prop where
  geocoder : ∀ latitude longitude first second,
    ((collaborators.geocoder latitude longitude).runOn first).1 =
      ((collaborators.geocoder latitude longitude).runOn second).1
  categories : ∀ codes first second,
    ((collaborators.categories codes).runOn first).1 =
      ((collaborators.categories codes).runOn second).1

/-- The sources of a payload in the services: the identifiers assigned to the queued images of a
product, and the cache. -/
def World.sources (id : Int64) (world : World γ) : List String × Cache :=
  ((world.store.queuedImages id).filterMap ImageRecord.tripImageId, world.cache)

/-- The identifiers assigned to the queued images of a product. -/
def Outage.assignedIds (outage : Outage) (id : Int64) : Attempt Store StoreError (List String) := do
  let queued ← outage.queuedImages id
  return queued.filterMap ImageRecord.tripImageId

/-- A build reads nothing of the queue but the assigned identifiers. -/
theorem buildPayload_eq_assignedIds (coding : Coding) (collaborators : Collaborators γ)
    (outage : Outage) (product : Product) :
    buildPayload coding collaborators outage product = do
      let categories ← World.onOutside
        ((collaborators.categories product.categories).mapError .ofSetback)
      let points ← World.onOutside
        ((locate collaborators.geocoder product.facilities).mapError .ofSetback)
      let imageIds ← World.onStore
        ((outage.assignedIds product.id).mapError fun cause => .error (.store cause))
      let units ← World.onCache ((packageUnits coding outage product).mapError .error)
      return (
        { productId := product.id, version := product.version, title := product.title,
          categories, pointsOfInterest := points, policy := .of product, imageIds },
        { productId := product.id, units }) := by
  simp only [Outage.assignedIds, World.onStore, mapError_bind, focus_bind, bind_assoc]
  rfl

/-- The assigned identifiers depend on nothing else. -/
theorem Outage.determined_assignedIds (outage : Outage) (id : Int64) :
    (outage.assignedIds id).Determined fun store =>
      (store.queuedImages id).filterMap ImageRecord.tripImageId := by
  intro first second same
  rw [assignedIds, runOn_bind_pure, runOn_bind_pure, queuedImages, runOn_onStore, runOn_onStore]
  cases outage.store (.queuedImages id) with
  | some reason => exact ⟨rfl, same⟩
  | none => exact ⟨congrArg Except.ok same, same⟩

/-- Where facilities are located depends on nothing if the geocoder has no state. -/
theorem Collaborators.Stateless.locate {collaborators : Collaborators γ}
    (stateless : collaborators.Stateless) (facilities : List Facility) :
    (locate collaborators.geocoder facilities).Determined fun _ => () := by
  induction facilities with
  | nil => exact determined_ofExcept _ (.ok [])
  | cons facility rest inductionHypothesis =>
    apply Determined.bind
    · exact fun first second _ => ⟨stateless.geocoder _ _ first second, rfl⟩
    · intro placeId _
      apply inductionHypothesis.bind
      intro others _
      exact determined_ofExcept _ (.ok _)

namespace World

/-- What nothing depends on depends on no source either. -/
theorem determined_onOutside {attempt : Attempt γ ε α}
    (determined : attempt.Determined fun _ => ()) : (onOutside attempt).Determined (sources id) :=
  determined.focus (fun _ _ _ => rfl) fun _ _ _ _ same _ => same

/-- What depends on the assigned identifiers in the store depends on the sources. -/
theorem determined_onStore {attempt : Attempt Store ε α}
    (determined : attempt.Determined fun store =>
      (store.queuedImages id).filterMap ImageRecord.tripImageId) :
    (onStore attempt : Attempt (World γ) ε α).Determined (sources id) := by
  apply determined.focus
  · exact fun _ _ same => congrArg Prod.fst same
  · intro left right _ _ same changed
    have cache : left.cache = right.cache := congrArg Prod.snd same
    exact Prod.ext changed cache

/-- What happens in the cache depends on the sources. -/
theorem determined_onCache (attempt : Attempt Cache ε α) :
    (onCache attempt : Attempt (World γ) ε α).Determined (sources id) := by
  apply (determined_id attempt).focus
  · exact fun _ _ same => congrArg Prod.snd same
  · intro left right _ _ same changed
    have assigned : (sources id left).1 = (sources id right).1 := congrArg Prod.fst same
    exact Prod.ext assigned changed

end World

namespace Pipeline

variable {pipeline : Pipeline γ}

/-- A build depends on the sources alone if the collaborators have no state. -/
theorem determined_buildPayload (stateless : pipeline.collaborators.Stateless) (outage : Outage)
    (product : Product) :
    (pipeline.buildPayload outage product).Determined (World.sources product.id) := by
  have named : (pipeline.collaborators.categories product.categories).Determined fun _ => () :=
    fun first second _ => ⟨stateless.categories _ first second, rfl⟩
  rw [buildPayload, buildPayload_eq_assignedIds]
  apply (World.determined_onOutside (named.mapError _)).bind
  intro categories _
  apply (World.determined_onOutside ((stateless.locate product.facilities).mapError _)).bind
  intro points _
  apply (World.determined_onStore ((outage.determined_assignedIds product.id).mapError _)).bind
  intro imageIds _
  apply (World.determined_onCache _).bind
  intro units _
  exact determined_ofExcept _ (.ok _)

end Pipeline

end Syndication
