import Syndication.Proofs.Content.Payload
import Syndication.Proofs.Purge.Retirement

/-!
# When copying clears a product

A build that meets a text which the cache does not confirm is left to the next reconciliation pass.
A pass that reports no failure has copied everything that the records agree on. It overwrites
nothing, though, and leaves a code out when two records have different texts under it. So it clears
a text that is cached already, or whose code is free in the cache and not contested by any record:
these are the conditions of `Backend.Clears`. A product with a complete view has all its texts in
its own record, so nothing else is needed, and nothing less is enough.
-/

namespace Syndication

open Attempt

/-- A pass leaves a text in the cache under its code: the cache has it there already, or it has
nothing there and no record has another text under the code. -/
def Backend.Clears (coding : Coding) (backend : Backend) (text : String) : Prop :=
  ∀ code, coding.code text = .ok code → backend.cache.get? code = some text ∨
    backend.cache.get? code = none ∧
      ∀ (id : Int64) (other : String), (backend.store.record id)[code]? = some other → other = text

section Clearance

variable {γ : Type} {pipeline : Pipeline γ} {catalog : Product → Prop} {outside : γ}
  {world later : World γ} {id : Int64} {product : Product} {outage : Outage}
  {report : ReconcileReport}

/-- A published text is in the cache after copying exactly when copying clears it. -/
theorem Backend.filled_agreed_iff {ttlSeconds : Nat} {backend : Backend} {code text : String}
    (positive : ttlSeconds ≠ 0) (lasting : backend.cache.Lasting)
    (published : (backend.store.record id)[code]? = some text) :
    (backend.cache.filled ttlSeconds backend.agreed).get? code = some text ↔
      backend.cache.get? code = some text ∨ backend.cache.get? code = none ∧
        ∀ (owner : Int64) (other : String),
          (backend.store.record owner)[code]? = some other → other = text := by
  rw [Backend.get?_filled_agreed positive lasting, Option.or_eq_some_iff, Store.flattened_iff]
  constructor
  · rintro (cached | ⟨free, _, only⟩)
    · exact Or.inl cached
    · exact Or.inr ⟨free, only⟩
  · rintro (cached | ⟨free, only⟩)
    · exact Or.inl cached
    · exact Or.inr ⟨free, ⟨id, published⟩, only⟩

/-- A product with a complete view can be expanded, and its texts are in its record. -/
theorem Reachable.published_of_viewed (reachable : Reachable pipeline catalog outside world)
    (stored : world.store.products[id]? = some product)
    (viewed : product.status.isComplete .view = true) :
    product.Codable pipeline.coding ∧ ∀ text ∈ product.texts, ∀ code,
      pipeline.coding.code text = .ok code →
        (world.store.record product.id)[code]? = some text := by
  obtain ⟨materialized, formed, _, recorded⟩ := reachable.stage_outputs_agree stored viewed
  obtain ⟨expanded, _, assigns⟩ := product.materialize_ok formed
  constructor
  · exact (product.expand_ok expanded).1
  · intro text member code coded
    exact recorded code text ((assigns code text).mpr ⟨member, coded⟩)

/-- After a pass without failures the cache covers a product with a complete view exactly when the
pass clears every text of the product. -/
theorem Reachable.covers_after_copying_iff (reachable : Reachable pipeline catalog outside world)
    (positive : pipeline.ttlSeconds ≠ 0)
    (ran : (pipeline.runReconcile outage).runOn world = (.ok report, later))
    (complete : report.failed = 0) (stored : world.store.products[id]? = some product)
    (viewed : product.status.isComplete .view = true) :
    later.cache.Covers pipeline.coding product ↔
      ∀ text ∈ product.texts, world.backend.Clears pipeline.coding text := by
  have live := reachable.sound.cache.live positive
  have published := (reachable.published_of_viewed stored viewed).2
  rw [(Pipeline.copied_of_runReconcile ran complete).2]
  constructor
  · intro covered text member code coded
    exact (Backend.filled_agreed_iff positive live (published text member code coded)).mp
      (covered text member code coded)
  · intro cleared text member code coded
    exact (Backend.filled_agreed_iff positive live (published text member code coded)).mpr
      (cleared text member code coded)

/-- Unresolved texts clear with a reconciliation pass where no code is in the way. Cache entries
have a time to live.

After a pass that reports no failure, no build of a product with a complete view reports an
unresolved text, whoever is asked and whatever is out of reach, exactly when before the pass each
code of the product was cached with the product's text, or was free in the cache and had no other
text in any record. -/
theorem Reachable.unresolved_clears_iff (reachable : Reachable pipeline catalog outside world)
    (positive : pipeline.ttlSeconds ≠ 0)
    (ran : (pipeline.runReconcile outage).runOn world = (.ok report, later))
    (complete : report.failed = 0) (stored : world.store.products[id]? = some product)
    (viewed : product.status.isComplete .view = true) :
    (∀ (collaborators : Collaborators γ) (outage : Outage) (code text : String),
      (({ pipeline with collaborators }.buildPayload outage product).runOn later).1 ≠
        .error (.error (.unresolvedPlu code text))) ↔
      ∀ text ∈ product.texts, world.backend.Clears pipeline.coding text := by
  have codable := (reachable.published_of_viewed stored viewed).1
  rw [Pipeline.never_unresolved_iff codable]
  exact reachable.covers_after_copying_iff positive ran complete stored viewed

end Clearance

namespace Tour

/-- The tour went through the stages, and none of its codes was copied. -/
def uncopied (coding : Coding) : World Unit := sync.perform (pipeline coding) (ingested coding)

/-- Copying clears the tour, so no build of it reports an unresolved text afterwards. -/
theorem uncopied_clears : ∃ later,
    ((pipeline ⟨digestCode, 12⟩).runReconcile Outage.none).runOn (uncopied ⟨digestCode, 12⟩) =
        (.ok ⟨1, 1, 0, 0, 0⟩, later) ∧
      ∀ code text, (((pipeline ⟨digestCode, 12⟩).buildPayload Outage.none
        { product with status := .imageReady }).runOn later).1 ≠
          .error (.error (.unresolvedPlu code text)) := by
  have reachable : Reachable (pipeline ⟨digestCode, 12⟩) (· = product) ()
      (uncopied ⟨digestCode, 12⟩) := .next sync (reachable_ingested _) trivial
  have ran : (((pipeline ⟨digestCode, 12⟩).runReconcile Outage.none).runOn
      (uncopied ⟨digestCode, 12⟩)).1 = .ok ⟨1, 1, 0, 0, 0⟩ := by decide +kernel
  have stored : (uncopied ⟨digestCode, 12⟩).store.products[(7 : Int64)]? =
      some { product with status := .imageReady } := by decide +kernel
  have texts : Product.texts { product with status := .imageReady } = ["7|1|4||"] := by
    decide +kernel
  have coded : Coding.code ⟨digestCode, 12⟩ "7|1|4||" = .ok "HX3GDJSA6ZH1" := by decide +kernel
  have free : (uncopied ⟨digestCode, 12⟩).cache.get? "HX3GDJSA6ZH1" = none := by decide +kernel
  have agreed :
      (flattenRecords (uncopied ⟨digestCode, 12⟩).store.records.toList).1["HX3GDJSA6ZH1"]? =
        some "7|1|4||" := by decide +kernel
  have clears := (reachable.unresolved_clears_iff (by decide) (Prod.ext ran rfl) rfl stored rfl).mpr
  refine ⟨_, Prod.ext ran rfl, clears ?_ collaborators Outage.none⟩
  intro text member code textCode
  rw [texts, List.mem_singleton] at member
  subst member
  cases coded.symm.trans textCode
  exact Or.inr ⟨free, (Store.flattened_iff.mp agreed).2⟩

/-- The tour and its neighbour went through the stages. -/
def contested (coding : Coding) : World Unit :=
  sync.perform (pipeline coding) ((Operation.ingest neighbour Outage.none).perform (pipeline coding)
    (ingested coding))

/-- With digests of one symbol the tour and its neighbour share a code. Copying succeeds without
failures and leaves the code out, so the tour cannot be built. -/
theorem contested_stays_unresolved :
    ¬ ∀ (world : World Unit) (report : ReconcileReport) (later : World Unit) (product : Product)
        (code text : String),
      Reachable (pipeline ⟨digestCode, 1⟩) neighbourhood () world →
      ((pipeline ⟨digestCode, 1⟩).runReconcile Outage.none).runOn world = (.ok report, later) →
      report.failed = 0 → world.store.products[(7 : Int64)]? = some product →
      product.status.isComplete .view = true →
        (((pipeline ⟨digestCode, 1⟩).buildPayload Outage.none product).runOn later).1 ≠
          .error (.error (.unresolvedPlu code text)) := by
  intro clears
  have initial : ∀ entry, entry = product → neighbourhood entry := by
    rintro _ rfl
    exact Or.inr ⟨1, rfl⟩
  have tour : Reachable (pipeline ⟨digestCode, 1⟩) neighbourhood () (ingested ⟨digestCode, 1⟩) :=
    (reachable_ingested _).mono initial
  have both := tour.next (.ingest neighbour Outage.none) ⟨Or.inl rfl, fun _ => rfl⟩
  have reachable : Reachable (pipeline ⟨digestCode, 1⟩) neighbourhood ()
      (contested ⟨digestCode, 1⟩) := both.next sync trivial
  have ran : (((pipeline ⟨digestCode, 1⟩).runReconcile Outage.none).runOn
      (contested ⟨digestCode, 1⟩)).1 = .ok ⟨0, 0, 0, 1, 0⟩ := by decide +kernel
  have stored : (contested ⟨digestCode, 1⟩).store.products[(7 : Int64)]? =
      some { product with status := .imageReady } := by decide +kernel
  apply clears _ _ _ _ "H" "7|1|4||" reachable (Prod.ext ran rfl) rfl stored rfl
  decide +kernel

end Tour

end Syndication
