import Syndication.Collaborator.Basic
import Syndication.Plu.Expansion
import Syndication.World

/-!
# Building and syndicating content

The payload of a product is built from the product, the collaborators' answers, the
identifiers assigned to its queued images, and the cache, which has to map the code
of every unit to the unit's text. The collaborators are asked first, categories
before places, then the queue is read, and the units come last, in order of
emission; the first failure is the one reported.

Syndicating a product builds its payload, stores it and marks the content stage
complete. A crash during the build fails this product and nothing else.
-/

namespace Syndication

/-- Why the content of a product could not be syndicated. -/
inductive ContentError where
  | store (cause : StoreError)
  | collaborator (cause : CollaboratorError)
  | codec (cause : ExpansionError)
  | cache (cause : CacheError)
  /-- The cache does not map a code to its text, which the next reconciliation mends. -/
  | unresolvedPlu (code expected : String)
  | panicked (message : String)
  deriving DecidableEq, Repr

/-- The message of a content error. -/
def ContentError.message : ContentError → String
  | .store cause => "document store error: " ++ cause.message
  | .collaborator cause => "collaborator error: " ++ cause.message
  | .codec cause => "PLU integrity error: " ++ cause.message
  | .cache cause => "cache error: " ++ cause.message
  | .unresolvedPlu code expected => "PLU hash " ++ code ++ " does not resolve to " ++ expected
  | .panicked message => "payload build panicked: " ++ message

/-- True for errors that the product itself causes. -/
def ContentError.isIntegrity : ContentError → Bool
  | .codec _ => true
  | _ => false

/-- How building a payload can go wrong: by an error, or by a crash that nobody reports. -/
inductive BuildFailure where
  | error (cause : ContentError)
  | crash (message : String)
  deriving DecidableEq, Repr

/-- A setback of a collaborator, seen from the build. -/
def BuildFailure.ofSetback : Setback → BuildFailure
  | .error cause => .error (.collaborator cause)
  | .crash message => .crash message

/-- What the content stage did for a product. -/
structure ContentOutcome where
  units : Nat
  status : SyncStatus
  deriving DecidableEq, Repr

/-- The name of the variant with an identifier: the last one in walking order that has it,
or an empty text. -/
def Product.variantName (product : Product) (id : Int64) : String :=
  match product.variants.reverse.find? fun placed => placed.variant.id == id with
  | some placed => placed.variant.name
  | none => ""

/-- A text that is there only if it is not empty. -/
def nonempty? (text : String) : Option String := if text.isEmpty then none else some text

/-- The unit of a text under its code, given what the cache holds for the code. -/
def Product.packageUnit (product : Product) (optionId : Int64) (code text : String)
    (cached : Option String) : Except ContentError PackageUnit :=
  if cached = some text then
    match Plu.read text with
    | .ok plu =>
      .ok ⟨code, text, plu.variantId, product.variantName plu.variantId, nonempty? plu.schedule,
        nonempty? plu.round⟩
    | .error cause => .error (.codec (.malformed optionId cause))
  else .error (.unresolvedPlu code text)

/-- The code that a detail has for one of its texts. -/
def PluDetail.codeOf? (detail : PluDetail) (text : String) : Option String :=
  (detail.hashes.toList.find? fun entry => entry.2 == text).map (·.1)

/-- The units of some texts of a detail, each checked against the cache in turn. -/
def unitsOfTexts (outage : Outage) (product : Product) (detail : PluDetail) :
    List String → Attempt Cache ContentError (List PackageUnit)
  | [] => return []
  | text :: rest => do
    match detail.codeOf? text with
    | none => unitsOfTexts outage product detail rest
    | some code =>
      let cached ← (outage.cacheGet code).mapError .cache
      let unit ← Attempt.ofExcept (product.packageUnit detail.optionId code text cached)
      let others ← unitsOfTexts outage product detail rest
      return unit :: others

/-- The units of several details in order. -/
def unitsOfDetails (outage : Outage) (product : Product) :
    List PluDetail → Attempt Cache ContentError (List PackageUnit)
  | [] => return []
  | detail :: rest => do
    let units ← unitsOfTexts outage product detail detail.plus
    let others ← unitsOfDetails outage product rest
    return units ++ others

/-- The sellable units of a product as the partner sees them. -/
def packageUnits (coding : Coding) (outage : Outage) (product : Product) :
    Attempt Cache ContentError (List PackageUnit) := do
  let details ← (Attempt.ofExcept (product.expand coding)).mapError .codec
  unitsOfDetails outage product details

/-- The points of interest of some facilities, asked for one after the other. -/
def locate {γ : Type} (geocoder : Geocoder γ) :
    List Facility → Attempt γ Setback (List PointOfInterest)
  | [] => return []
  | facility :: rest => do
    let placeId ← geocoder facility.latitude facility.longitude
    let others ← locate geocoder rest
    return ⟨facility.name, facility.latitude, facility.longitude, placeId⟩ :: others

/-- Builds the payload of a product. Store and cache are only read. -/
def buildPayload {γ : Type} (coding : Coding) (collaborators : Collaborators γ) (outage : Outage)
    (product : Product) : Attempt (World γ) BuildFailure Payload := do
  let categories ← World.onOutside
    ((collaborators.categories product.categories).mapError .ofSetback)
  let points ← World.onOutside
    ((locate collaborators.geocoder product.facilities).mapError .ofSetback)
  let queued ← World.onStore
    ((outage.queuedImages product.id).mapError fun cause => .error (.store cause))
  let units ← World.onCache ((packageUnits coding outage product).mapError .error)
  return (
    { productId := product.id, version := product.version, title := product.title, categories,
      pointsOfInterest := points, policy := .of product,
      imageIds := queued.filterMap ImageRecord.tripImageId },
    { productId := product.id, units })

/-- A failed build as an error of the content stage. -/
def BuildFailure.toError : BuildFailure → ContentError
  | .error cause => cause
  | .crash message => .panicked message

/-- Stores a payload and marks the content stage complete. -/
def storePayload (outage : Outage) (product : Product) (payload : Payload) :
    Attempt Store ContentError ContentOutcome := do
  (outage.upsertContent payload).mapError .store
  let status ← (outage.completeStage product.id product.version .content).mapError .store
  return ⟨payload.2.units.length, status⟩

end Syndication
