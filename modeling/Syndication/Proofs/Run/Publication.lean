import Syndication.Proofs.Run.Recovery

/-!
# Publishing at will

What is said about all runs is refuted by a single one. The runs below are made of operations that
do not fail: a content of the catalog comes in, is published, and its codes are copied into the
cache. From every reachable world each of these steps leads to another one, so that worlds can be
reached in which the codes of different contents meet.

A content comes in under some status, and pending at first. `Product.EntryOf` takes every status
into account, so that no content of the catalog is kept out by the one that it has there.
-/

namespace Syndication

open Attempt

/-- A content of the catalog under some status. -/
def Product.EntryOf (catalog : Product → Prop) (entry : Product) : Prop :=
  ∃ content status, catalog content ∧ entry = { content with status }

/-- Some content of the catalog that has an identifier has a text under a code. -/
def Coding.Offers (coding : Coding) (catalog : Product → Prop) (id : Int64)
    (code text : String) : Prop :=
  ∃ content materialized, catalog content ∧ content.id = id ∧
    content.materialize coding = .ok materialized ∧ materialized.hashes[code]? = some text

variable {coding : Coding} {catalog : Product → Prop} {id : Int64} {code text : String}

/-- A product that some entry offers makes the offer of a content. -/
theorem Product.OfferedBy.content {product : Product}
    (offered : product.OfferedBy (Product.EntryOf catalog)) :
    ∃ content, catalog content ∧ product.SameOffer content := by
  obtain ⟨entry, ⟨content, status, inCatalog, rfl⟩, same⟩ := offered
  exact ⟨content, inCatalog, same.trans (.withStatus content status)⟩

/-- Entries issue what contents offer. -/
theorem Coding.issues_entries_iff : coding.Issues (Product.EntryOf catalog) id code text ↔
    coding.Offers catalog id code text := by
  constructor
  · rintro ⟨product, materialized, ⟨_, offered⟩, own, formed, assigned⟩
    obtain ⟨content, inCatalog, same⟩ := offered.content
    exact ⟨content, materialized, inCatalog, same.id ▸ own, same.materialize_eq ▸ formed, assigned⟩
  · rintro ⟨content, materialized, inCatalog, own, formed, assigned⟩
    have entry : Product.EntryOf catalog content := ⟨content, content.status, inCatalog, rfl⟩
    exact ⟨content, materialized, ⟨.refl content, content, entry, .refl content⟩, own, formed,
      assigned⟩

/-- A stored product makes the offer of a content with its identifier. -/
theorem Store.Sound.content {store : Store} {product : Product}
    (sound : store.Sound coding (Product.EntryOf catalog))
    (stored : store.products[id]? = some product) :
    ∃ content, catalog content ∧ content.id = id ∧ product.SameOffer content := by
  obtain ⟨content, inCatalog, same⟩ := (sound.agrees.own id product stored).2.content
  exact ⟨content, inCatalog, same.id.symm.trans (sound.agrees.placed id product stored), same⟩

/-- The codes of a content that can be expanded tell the texts of its entries apart. -/
theorem Product.Codable.separates {content : Product} (codable : content.Codable coding) :
    coding.Separates (Product.EntryOf (· = content)) := by
  rintro _ _ ⟨_, first, rfl, rfl⟩ ⟨_, second, rfl, rfl⟩ _ _ text textIn other otherIn code
  exact codable.injective text textIn other otherIn code

/-- A pipeline with a coding whose cache entries have a time to live. -/
def Pipeline.caching (γ : Type) (coding : Coding) : Pipeline γ :=
  ⟨coding, 60, ⟨fun _ _ => pure "place", fun _ => pure []⟩⟩

namespace Reachable

variable {γ : Type} {pipeline : Pipeline γ} {outside : γ} {world : World γ}

/-- A content of the catalog can come in. The records and the cache stay as they are. -/
theorem ingests (reachable : Reachable pipeline (Product.EntryOf catalog) outside world)
    {content : Product} (inCatalog : catalog content) :
    ∃ later, Reachable pipeline (Product.EntryOf catalog) outside later ∧
      later.cache = world.cache ∧ (∀ id, later.store.record id = world.store.record id) ∧
      ∃ product : Product, later.store.products[content.id]? = some product ∧
        product.SameOffer content := by
  let entry : Product := { content with status := .pending }
  have admissible : (Operation.ingest entry Outage.none : Operation γ).Admissible
      (Product.EntryOf catalog) world := ⟨⟨content, .pending, inCatalog, rfl⟩, fun _ => rfl⟩
  refine ⟨_, reachable.next _ admissible, rfl, fun _ => rfl,
    { entry with status := world.store.ingestedStatus entry }, ?_, ?_⟩
  · show (world.store.upsertProduct entry).2.products[content.id]? = _
    rw [Store.products_upsertProduct, if_pos rfl]
  · exact .withStatus content _

/-- A content of the catalog that can be expanded can be published: it comes in and the view stage
runs. Its texts are in the record then, and the cache stays as it is. -/
theorem publishes (reachable : Reachable pipeline (Product.EntryOf catalog) outside world)
    {content : Product} {materialized : Materialized} (inCatalog : catalog content)
    (formed : content.materialize pipeline.coding = .ok materialized) :
    ∃ later, Reachable pipeline (Product.EntryOf catalog) outside later ∧
      later.cache = world.cache ∧ ∀ code text : String, materialized.hashes[code]? = some text →
        (later.store.record content.id)[code]? = some text := by
  obtain ⟨stored, reachableStored, cacheStored, _, product, found, offer⟩ :=
    reachable.ingests inCatalog
  let pass : Operation γ := .pass .view pipeline.collaborators Outage.none.throughout
  have sound := reachableStored.sound
  have likeness := Product.SameOffered.likeness (Product.EntryOf catalog)
  have passes : (pipeline.runStage Outage.none.throughout .view).Succeeds _ stored :=
    Pipeline.passes_runStage likeness sound.store.agrees
  obtain ⟨report, later, ran, passed⟩ := passes.runs
  have performed : pass.perform pipeline stored = later := congrArg Prod.snd ran
  refine ⟨later, performed ▸ reachableStored.next pass trivial, ?_, fun code text assigned => ?_⟩
  · exact passed.cache.trans cacheStored
  · have done : later.store.Done pipeline.coding .view :=
      passed.done sound.store.agrees nofun fun _ _ _ codable => ⟨codable, nofun⟩
    obtain ⟨absent, _⟩ | ⟨earlier, status, foundEarlier, present, _⟩ := passed.promotes content.id
    · rw [found] at absent
      cases absent
    · cases found.symm.trans foundEarlier
      have same := (Product.SameOffer.withStatus product status).trans offer
      have codable := same.codable_iff.mpr (Product.materialize_ok_iff.mp ⟨_, formed⟩)
      have viewed := done content.id _ present codable
      obtain ⟨source, like, shown⟩ := passed.agrees.shown content.id _ .view present viewed
      obtain ⟨shownForm, formedShown, _, recorded⟩ := shown.of_sameOffer (same.symm.trans like.1)
      cases formed.symm.trans formedShown
      exact recorded code text assigned

/-- What the records agree on can be copied into the cache, where codes tell texts apart. -/
theorem copies (reachable : Reachable pipeline catalog outside world)
    (separates : pipeline.coding.Separates catalog) (positive : pipeline.ttlSeconds ≠ 0) :
    ∃ later, Reachable pipeline catalog outside later ∧ later.store = world.store ∧
      ∀ (id : Int64) (code text : String), (world.store.record id)[code]? = some text →
        later.cache.get? code = some text := by
  obtain ⟨report, later, ran, _, store, copied⟩ :=
    (Pipeline.reconciles separates positive reachable.sound).runs
  have performed : (Operation.reconcile Outage.none).perform pipeline world = later :=
    congrArg Prod.snd ran
  exact ⟨later, performed ▸ reachable.next (.reconcile Outage.none) trivial, store, copied⟩

/-- A content that can be expanded can be published and have its codes cached before anything
else comes in. -/
theorem begins (pipeline : Pipeline γ) (outside : γ) {content : Product}
    {materialized : Materialized} (inCatalog : catalog content)
    (formed : content.materialize pipeline.coding = .ok materialized)
    (positive : pipeline.ttlSeconds ≠ 0) :
    ∃ later, Reachable pipeline (Product.EntryOf catalog) outside later ∧
      ∀ code text : String, materialized.hashes[code]? = some text →
        (later.store.record content.id)[code]? = some text ∧ later.cache.get? code = some text := by
  have codable := Product.materialize_ok_iff.mp ⟨materialized, formed⟩
  have empty : Reachable pipeline (Product.EntryOf (· = content)) outside _ := .start
  obtain ⟨published, reachablePublished, _, recorded⟩ := empty.publishes rfl formed
  obtain ⟨later, reachableLater, store, cached⟩ :=
    reachablePublished.copies codable.separates positive
  have more : ∀ entry, Product.EntryOf (· = content) entry → Product.EntryOf catalog entry := by
    rintro _ ⟨other, status, same, rfl⟩
    exact ⟨other, status, same ▸ inCatalog, rfl⟩
  refine ⟨later, reachableLater.mono more, fun code text assigned => ?_⟩
  have here := recorded code text assigned
  exact ⟨store ▸ here, cached content.id code text here⟩

end Reachable

end Syndication
