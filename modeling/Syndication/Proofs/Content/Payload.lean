import Syndication.Proofs.Cache.Resolution
import Syndication.Proofs.Plu.Digest
import Syndication.Proofs.Run.Operations
import Syndication.Proofs.Stage.Success

/-!
# What a payload lists

A build asks the collaborators, reads the queue and lists the units of an expansion, in this order.
`BuildOutcome` says what it can lead to: something before the units is in the way, the product
cannot be expanded, or the units decide. All of a payload can be read off that, and so can the text
that a failed build reports.
-/

namespace Syndication

open Attempt

section Build

variable {γ : Type} {pipeline : Pipeline γ} {outage : Outage} {product : Product} {world : World γ}

/-- The collaborators answer everything that a build asks them, one question after the other. -/
def Collaborators.Serve (collaborators : Collaborators γ) (product : Product) (outside : γ) :
    Prop :=
  ∃ names between points after,
    (collaborators.categories product.categories).runOn outside = (.ok names, between) ∧
      (locate collaborators.geocoder product.facilities).runOn between = (.ok points, after)

/-- Collaborators that answer every question answer those of a build. -/
theorem Collaborators.Answer.serve {collaborators : Collaborators γ}
    (answers : collaborators.Answer) (product : Product) (outside : γ) :
    collaborators.Serve product outside := by
  obtain ⟨names, named⟩ := answers.categories product.categories outside
  have places : (locate collaborators.geocoder product.facilities).Succeeds (fun _ _ => True)
      ((collaborators.categories product.categories).runOn outside).2 := succeeds_locate answers
  obtain ⟨points, after, located, _⟩ := places.runs
  exact ⟨names, _, points, after, Prod.ext named rfl, located⟩

/-- The name and the place of a facility. -/
def Facility.site (facility : Facility) : String × Binary64 × Binary64 :=
  (facility.name, facility.latitude, facility.longitude)

/-- The name and the place of a point of interest. -/
def PointOfInterest.site (point : PointOfInterest) : String × Binary64 × Binary64 :=
  (point.name, point.latitude, point.longitude)

/-- What building a payload can lead to. -/
inductive BuildOutcome (pipeline : Pipeline γ) (outage : Outage) (product : Product)
    (world : World γ) : Except BuildFailure Payload → Prop
  /-- A collaborator does not answer, or the queue is out of reach. -/
  | hindered (failure : BuildFailure)
      (elsewhere : ∀ code text, failure ≠ .error (.unresolvedPlu code text))
      (because : ¬(pipeline.collaborators.Serve product world.outside ∧
        outage.store (.queuedImages product.id) = none)) :
      BuildOutcome pipeline outage product world (.error failure)
  /-- The product cannot be expanded. -/
  | unexpandable (cause : ExpansionError)
      (refused : product.expand pipeline.coding = .error cause) :
      BuildOutcome pipeline outage product world (.error (.error (.codec cause)))
  /-- The units of the expansion decide. -/
  | packaged (content : ProductContent) (details : List PluDetail)
      (units : Except ContentError (List PackageUnit))
      (located : content.pointsOfInterest.map PointOfInterest.site =
        product.facilities.map Facility.site)
      (expanded : product.expand pipeline.coding = .ok details)
      (listing : Listing pipeline.coding outage product world.cache
        (details.flatMap PluDetail.plus) units) :
      BuildOutcome pipeline outage product world
        ((units.mapError BuildFailure.error).map fun units => (content, ⟨product.id, units⟩))

/-- Every facility gets its point of interest, in order. -/
theorem points_of_locate {geocoder : Geocoder γ} {facilities : List Facility} {outside after : γ}
    {points : List PointOfInterest}
    (located : (locate geocoder facilities).runOn outside = (.ok points, after)) :
    points.map PointOfInterest.site = facilities.map Facility.site := by
  induction facilities generalizing outside points with
  | nil =>
    cases located
    rfl
  | cons facility rest inductionHypothesis =>
    obtain ⟨placeId, between, _, followed⟩ := runOn_bind_ok_iff.mp located
    obtain ⟨others, last, ran, made⟩ := runOn_bind_ok_iff.mp followed
    cases made
    rw [List.map_cons, List.map_cons, inductionHypothesis ran]
    rfl

/-- A build has one of these outcomes, and leaves the services as they are. -/
theorem Pipeline.buildPayload_outcome (pipeline : Pipeline γ) (outage : Outage) (product : Product)
    (world : World γ) :
    BuildOutcome pipeline outage product world
        ((pipeline.buildPayload outage product).runOn world).1 ∧
      ((pipeline.buildPayload outage product).runOn world).2.backend = world.backend := by
  have unasked : ∀ (setback : Setback) code text,
      BuildFailure.ofSetback setback ≠ .error (.unresolvedPlu code text) := by
    rintro (cause | message) code text <;> nofun
  rw [buildPayload, Syndication.buildPayload, runOn_bind, World.runOn_onOutside, runOn_mapError]
  rcases asked : (pipeline.collaborators.categories product.categories).runOn world.outside
    with ⟨setback | names, between⟩
  · refine ⟨.hindered _ (unasked setback) ?_, rfl⟩
    rintro ⟨⟨_, _, _, _, answered, _⟩, _⟩
    cases asked.symm.trans answered
  simp only [Except.mapError]
  rw [runOn_bind, World.runOn_onOutside, runOn_mapError]
  simp only
  rcases located : (locate pipeline.collaborators.geocoder product.facilities).runOn between
    with ⟨setback | points, after⟩
  · refine ⟨.hindered _ (unasked setback) ?_, rfl⟩
    rintro ⟨⟨_, _, _, _, answered, found⟩, _⟩
    cases asked.symm.trans answered
    cases located.symm.trans found
  simp only [Except.mapError]
  rw [runOn_bind, World.runOn_onStore, runOn_mapError, Outage.queuedImages, Outage.runOn_onStore]
  cases reached : outage.store (.queuedImages product.id) with
  | some reason =>
    refine ⟨.hindered _ nofun ?_, rfl⟩
    rintro ⟨_, inReach⟩
    cases reached.symm.trans inReach
  | none =>
    simp only [Except.mapError]
    rw [runOn_bind_pure, World.runOn_onCache, runOn_mapError]
    constructor
    · cases expanded : product.expand pipeline.coding with
      | error cause =>
        rw [packageUnits_of_not_expand expanded]
        exact .unexpandable cause expanded
      | ok details =>
        exact .packaged _ details _ (points_of_locate located) expanded
          (listing_packageUnits outage world.cache expanded).1
    · exact congrArg (Backend.mk world.store) cache_of_packageUnits

/-- A payload that is built is one of the product. -/
theorem Pipeline.productId_of_buildPayload {payload : Payload} {later : World γ}
    (ran : (pipeline.buildPayload outage product).runOn world = (.ok payload, later)) :
    payload.1.productId = product.id := by
  rw [buildPayload, Syndication.buildPayload] at ran
  obtain ⟨_, _, _, located⟩ := runOn_bind_ok_iff.mp ran
  obtain ⟨_, _, _, queued⟩ := runOn_bind_ok_iff.mp located
  obtain ⟨_, _, _, packaged⟩ := runOn_bind_ok_iff.mp queued
  obtain ⟨_, _, _, made⟩ := runOn_bind_ok_iff.mp packaged
  cases made
  rfl

/-- A payload that is built lists the units of an expansion of the product, and the cache has the
text of each under its code. -/
theorem Pipeline.listed_of_buildPayload {payload : Payload}
    (built : ((pipeline.buildPayload outage product).runOn world).1 = .ok payload) :
    ∃ details, product.expand pipeline.coding = .ok details ∧
      List.Forall₂ (product.Presents pipeline.coding) (details.flatMap PluDetail.plus)
        payload.2.units ∧
      (∀ unit ∈ payload.2.units, unit.Cached pipeline.coding outage world.cache) ∧
      payload.1.pointsOfInterest.map PointOfInterest.site =
        product.facilities.map Facility.site := by
  have outcome := (pipeline.buildPayload_outcome outage product world).1
  generalize ((pipeline.buildPayload outage product).runOn world).1 = result at outcome built
  cases outcome with
  | hindered | unexpandable => cases built
  | packaged content details units located expanded listing =>
    cases listing with
    | unreadable | unresolved => cases built
    | listed presented confirmed cached =>
      cases built
      exact ⟨details, expanded, presented, cached, located⟩

/-- A build that reports an unresolved text reports the first one that the cache does not confirm,
with its code. -/
theorem Pipeline.unresolved_of_buildPayload {code text : String}
    (failed : ((pipeline.buildPayload outage product).runOn world).1 =
      .error (.error (.unresolvedPlu code text))) :
    ∃ details, product.expand pipeline.coding = .ok details ∧
      world.cache.firstUnconfirmed? pipeline.coding (details.flatMap PluDetail.plus) = some text ∧
      pipeline.coding.code text = .ok code := by
  have outcome := (pipeline.buildPayload_outcome outage product world).1
  generalize ((pipeline.buildPayload outage product).runOn world).1 = result at outcome failed
  cases outcome with
  | hindered failure elsewhere _ =>
    cases failed
    exact absurd rfl (elsewhere code text)
  | unexpandable => cases failed
  | packaged content details units located expanded listing =>
    cases listing with
    | listed | unreadable => cases failed
    | unresolved first coded =>
      cases failed
      exact ⟨details, expanded, first, coded⟩

/-- Where everything is in reach and the product can be expanded, a build fails exactly when the
cache does not confirm some text, and then with the first such text. -/
theorem Pipeline.buildPayload_error_iff (pipeline : Pipeline γ) {details : List PluDetail}
    (outage : Outage) (served : pipeline.collaborators.Serve product world.outside)
    (queue : outage.store (.queuedImages product.id) = none)
    (expanded : product.expand pipeline.coding = .ok details)
    (readable : ∀ code, outage.cache (.get code) = none) (failure : BuildFailure) :
    ((pipeline.buildPayload outage product).runOn world).1 = .error failure ↔
      ∃ text code, world.cache.firstUnconfirmed? pipeline.coding
          (details.flatMap PluDetail.plus) = some text ∧
        pipeline.coding.code text = .ok code ∧ failure = .error (.unresolvedPlu code text) := by
  have outcome := (pipeline.buildPayload_outcome outage product world).1
  generalize ((pipeline.buildPayload outage product).runOn world).1 = result at outcome
  cases outcome with
  | hindered _ _ because => exact absurd ⟨served, queue⟩ because
  | unexpandable cause refused => cases expanded.symm.trans refused
  | packaged content found units located expandedThen listing =>
    cases expanded.symm.trans expandedThen
    cases listing with
    | listed presented confirmed _ =>
      rw [confirmed]
      exact ⟨nofun, nofun⟩
    | unreadable fails => cases (readable _).symm.trans fails
    | unresolved first coded =>
      constructor
      · intro failed
        cases failed
        exact ⟨_, _, first, coded, rfl⟩
      · rintro ⟨text, code, same, sameCode, rfl⟩
        cases first.symm.trans same
        cases coded.symm.trans sameCode
        rfl

/-- Collaborators that answer every question with the same place and no names. -/
def Collaborators.uniform : Collaborators γ := ⟨fun _ _ => pure "place", fun _ => pure []⟩

/-- They do answer. -/
theorem Collaborators.uniform_answer : (uniform : Collaborators γ).Answer :=
  ⟨fun _ _ _ => ⟨"place", rfl⟩, fun _ _ => ⟨[], rfl⟩⟩

/-- No build of a product that can be expanded reports an unresolved text, whoever is asked and
whatever is out of reach, exactly when the cache covers the product. -/
theorem Pipeline.never_unresolved_iff (codable : product.Codable pipeline.coding) :
    (∀ (collaborators : Collaborators γ) (outage : Outage) (code text : String),
      (({ pipeline with collaborators }.buildPayload outage product).runOn world).1 ≠
        .error (.error (.unresolvedPlu code text))) ↔
      world.cache.Covers pipeline.coding product := by
  obtain ⟨details, expanded⟩ := Product.expand_ok_iff.mpr codable
  rw [Cache.covers_iff expanded]
  constructor
  · intro never
    have served := Collaborators.uniform_answer.serve product world.outside
    have fails := { pipeline with collaborators := .uniform }.buildPayload_error_iff Outage.none
      served rfl expanded fun _ => rfl
    rw [Option.eq_none_iff_forall_ne_some]
    intro text first
    have member : text ∈ product.texts := by
      rw [← List.mem_eraseDups, ← (product.expand_ok expanded).2.1]
      exact List.mem_of_find?_eq_some first
    obtain ⟨code, coded⟩ := codable.coded text member
    exact never .uniform Outage.none code text
      ((fails _).mpr ⟨text, code, first, coded, rfl⟩)
  · intro confirmed collaborators outage code text failed
    obtain ⟨found, expandedThen, first, _⟩ := unresolved_of_buildPayload failed
    cases expanded.symm.trans expandedThen
    cases confirmed.symm.trans first

/-- A payload lists exactly the units of its product, and their codes resolve. Codes are digests.

When a build succeeds, the units present the texts of the expansion, all of them and in order. The
code of each unit resolves to its text afterwards, and there is a point of interest for every
facility in order. When the collaborators answer, the product can be expanded and the services are
in reach, a build fails exactly when the cache does not have some text under its code, and it
reports the first such text in the order of the expansion. -/
theorem Pipeline.payload_lists_units {length : Nat}
    (digest : pipeline.coding = ⟨digestCode, length⟩) (outage : Outage) (product : Product)
    (world : World γ) :
    (∀ payload later, (pipeline.buildPayload outage product).runOn world = (.ok payload, later) →
      ∃ details, product.expand pipeline.coding = .ok details ∧
        List.Forall₂ (product.Presents pipeline.coding) (details.flatMap PluDetail.plus)
          payload.2.units ∧
        (∀ unit ∈ payload.2.units,
          ((Pipeline.resolve outage unit.code).runOn later).1 = .ok unit.plu) ∧
        payload.1.pointsOfInterest.map PointOfInterest.site =
          product.facilities.map Facility.site) ∧
    ∀ details, pipeline.collaborators.Serve product world.outside →
      outage.store (.queuedImages product.id) = none →
      product.expand pipeline.coding = .ok details →
      (∀ code, outage.cache (.get code) = none) →
      ∀ failure, ((pipeline.buildPayload outage product).runOn world).1 = .error failure ↔
        ∃ text code, world.cache.firstUnconfirmed? pipeline.coding
            (details.flatMap PluDetail.plus) = some text ∧
          pipeline.coding.code text = .ok code ∧ failure = .error (.unresolvedPlu code text) := by
  constructor
  · intro payload later built
    obtain ⟨details, expanded, presented, cached, located⟩ :=
      listed_of_buildPayload (congrArg Prod.fst built)
    have kept := (pipeline.buildPayload_outcome outage product world).2
    rw [built] at kept
    refine ⟨details, expanded, presented, ?_, located⟩
    intro unit member
    have coded := (cached unit member).coded
    rw [digest] at coded
    rw [result_resolve, resolvePlu_ok_iff, World.cache, kept]
    exact ⟨isWellFormedCode_of_digestCode coded, (cached unit member).reached,
      (cached unit member).held⟩
  · intro details served queue expanded readable
    exact pipeline.buildPayload_error_iff outage served queue expanded readable

end Build

/-- The payload of the published tour is built and the code of its unit resolves. Before the codes
are copied the build fails with the text that the cache does not have. -/
theorem Tour.payload_once_copied :
    (∃ payload later, ((pipeline ⟨digestCode, 12⟩).buildPayload Outage.none product).runOn
        (published ⟨digestCode, 12⟩) = (.ok payload, later) ∧
      ∀ unit ∈ payload.2.units,
        ((Pipeline.resolve Outage.none unit.code).runOn later).1 = .ok unit.plu) ∧
    (((pipeline ⟨digestCode, 12⟩).buildPayload Outage.none product).runOn
        (ingested ⟨digestCode, 12⟩)).1 =
      .error (.error (.unresolvedPlu "HX3GDJSA6ZH1" "7|1|4||")) := by
  have lists := fun world => (pipeline ⟨digestCode, 12⟩).payload_lists_units rfl Outage.none
    product world
  constructor
  · have built : (((pipeline ⟨digestCode, 12⟩).buildPayload Outage.none product).runOn
        (published ⟨digestCode, 12⟩)).1.isOk = true := by decide +kernel
    rcases ran : ((pipeline ⟨digestCode, 12⟩).buildPayload Outage.none product).runOn
        (published ⟨digestCode, 12⟩) with ⟨failure | payload, later⟩
    · rw [ran] at built
      cases built
    · obtain ⟨_, _, _, resolves, _⟩ := (lists _).1 payload later ran
      exact ⟨payload, later, rfl, resolves⟩
  · have served : (pipeline ⟨digestCode, 12⟩).collaborators.Serve product () :=
      ⟨[], (), [], (), rfl, rfl⟩
    have expanded : (product.expand ⟨digestCode, 12⟩).isOk = true := by decide +kernel
    cases units : product.expand ⟨digestCode, 12⟩ with
    | error cause =>
      rw [units] at expanded
      cases expanded
    | ok details =>
      have emitted := (product.expand_ok units).2.1
      have texts : product.texts.eraseDups = ["7|1|4||"] := by decide +kernel
      apply ((lists _).2 details served rfl units (fun _ => rfl) _).mpr
      refine ⟨"7|1|4||", "HX3GDJSA6ZH1", ?_, by decide +kernel, rfl⟩
      rw [emitted, texts]
      decide +kernel

end Syndication
