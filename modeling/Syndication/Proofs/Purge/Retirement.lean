import Syndication.Proofs.Purge.Effect
import Syndication.Proofs.Run.Publication

/-!
# What a purge leaves in the cache

A purge compares the codes of the old record with the codes that the product has now, and it
removes codes from the cache whatever their values are. Texts play no part in it. That is enough
as long as codes are not shared, and only then: a text that the product has lost stays cached
when another version has its code, and the text of another product is removed when it has a code
that the product loses.

Both facts are stated for all runs, with the condition on the contents of the catalog under which
a purge does what its texts would ask for.
-/

namespace Syndication

open Attempt

/-- A code is assigned when it has a text. -/
theorem PluHashes.mem_iff {hashes : PluHashes} {code : String} :
    code ∈ hashes ↔ ∃ text, hashes[code]? = some text :=
  Std.ExtTreeMap.mem_iff_isSome_getElem?.trans Option.isSome_iff_exists

namespace Pipeline

variable {γ : Type} {pipeline : Pipeline γ} {world : World γ} {id : Int64} {outage : Outage}

/-- A purge that succeeds removes the codes that are gone from the record out of the cache, and
no others. -/
theorem cache_of_purge_ok {report : PurgeReport} {later : World γ}
    (ran : (pipeline.purge outage id).runOn world = (.ok report, later)) :
    ∃ product current, world.store.products[id]? = some product ∧
      product.materialize pipeline.coding = .ok current ∧ ∀ code, later.cache.get? code =
        if code ∈ world.store.record id ∧ code ∉ current.hashes then none
        else world.cache.get? code := by
  have outcome := purgeRetired_outcome pipeline.coding outage id world.backend
  rw [runOn_purge] at ran
  generalize (purgeRetired pipeline.coding outage id).runOn world.backend = result at outcome ran
  cases outcome with
  | refused | interrupted => cases ran
  | finished product current stored formed removed =>
    cases ran
    refine ⟨product, current, stored, formed, fun code => ?_⟩
    show (world.cache.without _).get? code = _
    rw [removed, Cache.get?_without]
    simp only [Backend.mem_retiredCodes_iff]
    rfl

/-- A purge removes no code from the cache but those that are gone from the record. -/
theorem cache_of_purge (pipeline : Pipeline γ) (outage : Outage) (id : Int64) (world : World γ)
    (code : String) :
    ((pipeline.purge outage id).runOn world).2.cache.get? code = world.cache.get? code ∨
      ∃ product current, world.store.products[id]? = some product ∧
        product.materialize pipeline.coding = .ok current ∧
        code ∈ world.store.record id ∧ code ∉ current.hashes := by
  have outcome := purgeRetired_outcome pipeline.coding outage id world.backend
  rw [runOn_purge]
  generalize (purgeRetired pipeline.coding outage id).runOn world.backend = result at outcome
  have untouched (current : PluHashes)
      (kept : ¬(code ∈ world.store.record id ∧ code ∉ current)) :
      (world.backend.purged outage id current).cache.get? code = world.cache.get? code := by
    have remains : code ∉ outage.removable (world.backend.retiredCodes id current) := fun member =>
      kept (Backend.mem_retiredCodes_iff.mp (Outage.mem_of_mem_removable member))
    show (world.cache.without _).get? code = _
    rw [Cache.get?_without, if_neg remains]
  cases outcome with
  | refused => exact Or.inl rfl
  | interrupted product current _ stored formed | finished product current stored formed =>
    by_cases gone : code ∈ world.store.record id ∧ code ∉ current.hashes
    · exact Or.inr ⟨product, current, stored, formed, gone⟩
    · exact Or.inl (untouched current.hashes gone)

/-- Without outage a purge of a stored product that can be expanded succeeds. -/
theorem purge_succeeds (pipeline : Pipeline γ) {product : Product} {current : Materialized}
    (stored : world.store.products[id]? = some product)
    (formed : product.materialize pipeline.coding = .ok current) :
    ∃ report later, (pipeline.purge Outage.none id).runOn world = (.ok report, later) := by
  have outcome := purgeRetired_outcome pipeline.coding Outage.none id world.backend
  rw [runOn_purge]
  generalize (purgeRetired pipeline.coding Outage.none id).runOn world.backend = result at outcome
  cases outcome with
  | refused _ _ hindered => exact absurd formed (hindered rfl rfl product current stored)
  | interrupted _ _ _ _ _ stopped => exact absurd (Outage.removable_none _) stopped
  | finished => exact ⟨_, _, rfl⟩

end Pipeline

variable {coding : Coding} {catalog : Product → Prop} {id : Int64} {code text other : String}

/-! ## Texts that the product has lost -/

/-- No two texts are offered under one code for one product. -/
def Coding.TellsVersionsApart (coding : Coding) (catalog : Product → Prop) : Prop :=
  ∀ (id : Int64) (code text other : String), coding.Offers catalog id code text →
    coding.Offers catalog id code other → text = other

/-- A text stays cached when a purge finds its code taken over by another text: the content with
the one is published and cached, and then the content with the other comes in. -/
theorem Reachable.keeps_lost_text {γ : Type} (outside : γ)
    (offered : coding.Offers catalog id code text)
    (offeredThen : coding.Offers catalog id code other) (different : text ≠ other) :
    ∃ world, Reachable (.caching γ coding) (Product.EntryOf catalog) outside world ∧
      ∃ report later, ((Pipeline.caching γ coding).purge Outage.none id).runOn world =
          (.ok report, later) ∧
        ∃ product details, world.store.products[id]? = some product ∧
          product.expand coding = .ok details ∧ (world.store.record id)[code]? = some text ∧
          text ∉ details.flatMap PluDetail.plus ∧ later.cache.get? code = some text := by
  obtain ⟨first, earlier, firstIn, rfl, formed, assigned⟩ := offered
  obtain ⟨second, current, secondIn, own, formedThen, assignedThen⟩ := offeredThen
  obtain ⟨before, reachableBefore, present⟩ :=
    Reachable.begins (.caching γ coding) outside firstIn formed (Nat.succ_ne_zero 59)
  obtain ⟨world, reachable, cache, records, product, stored, same⟩ :=
    reachableBefore.ingests secondIn
  rw [own] at stored
  have formedNow := same.materialize_eq.trans formedThen
  obtain ⟨report, later, ran⟩ := Pipeline.purge_succeeds (.caching γ coding) stored formedNow
  obtain ⟨expanded, _, assigns⟩ := product.materialize_ok formedNow
  have recorded : (world.store.record first.id)[code]? = some text := by
    rw [records]
    exact (present code text assigned).1
  have lost : text ∉ current.view.details.flatMap PluDetail.plus := by
    rw [(product.expand_ok expanded).2.1, List.mem_eraseDups]
    intro member
    have coded := (((first.materialize_ok formed).2.2 code text).mp assigned).2
    have assignedNow := (assigns code text).mpr ⟨member, coded⟩
    exact different (Option.some.inj (assignedNow.symm.trans assignedThen))
  have stays : later.cache.get? code = some text := by
    obtain ⟨_, _, storedThen, formedThen, evicted⟩ := Pipeline.cache_of_purge_ok ran
    cases stored.symm.trans storedThen
    cases formedNow.symm.trans formedThen
    have produced : code ∈ current.hashes := PluHashes.mem_iff.mpr ⟨other, assignedThen⟩
    rw [evicted, if_neg fun gone => gone.2 produced, cache]
    exact (present code text assigned).2
  exact ⟨world, reachable, report, later, ran, product, _, stored, expanded, recorded, lost, stays⟩

/-- After a successful purge the texts of the old record that the product does not have any more
are gone from the cache in all runs if and only if contents with one identifier do not have
different texts under one code. -/
theorem Pipeline.retired_texts_gone_iff {γ : Type} (coding : Coding) (catalog : Product → Prop)
    (outside : γ) :
    (∀ pipeline : Pipeline γ, pipeline.coding = coding →
      ∀ world, Reachable pipeline (Product.EntryOf catalog) outside world →
      ∀ (outage : Outage) (id : Int64) (report : PurgeReport) (later : World γ),
        (pipeline.purge outage id).runOn world = (.ok report, later) →
      ∀ (product : Product) (details : List PluDetail), world.store.products[id]? = some product →
        product.expand coding = .ok details →
      ∀ code text : String, (world.store.record id)[code]? = some text →
        text ∉ details.flatMap PluDetail.plus → later.cache.get? code ≠ some text) ↔
      coding.TellsVersionsApart catalog := by
  constructor
  case mpr =>
    rintro apart pipeline rfl world reachable outage id report later ran product details stored
      expanded code text recorded lost cached
    have sound := reachable.sound
    obtain ⟨_, current, storedThen, formed, evicted⟩ := Pipeline.cache_of_purge_ok ran
    cases stored.symm.trans storedThen
    obtain ⟨expandedThen, _, assigns⟩ := product.materialize_ok formed
    cases expanded.symm.trans expandedThen
    rw [evicted] at cached
    by_cases produced : code ∈ current.hashes
    · -- The product has the code for the same text then, so the text is not lost.
      obtain ⟨other, assigned⟩ := PluHashes.mem_iff.mp produced
      obtain ⟨content, inCatalog, own, same⟩ := sound.store.content stored
      have offered : pipeline.coding.Offers catalog id code other :=
        ⟨content, current, inCatalog, own, same.materialize_eq ▸ formed, assigned⟩
      have before := Coding.issues_entries_iff.mp (sound.store.recorded id code text recorded)
      obtain rfl := apart id code text other before offered
      have member := ((assigns code text).mp assigned).1
      rw [(product.expand_ok expanded).2.1, List.mem_eraseDups] at lost
      exact lost member
    · rw [if_pos ⟨PluHashes.mem_iff.mpr ⟨text, recorded⟩, produced⟩] at cached
      cases cached
  case mp =>
    intro gone id code text other offered offeredThen
    refine Decidable.byContradiction fun different => ?_
    obtain ⟨world, reachable, report, later, ran, product, details, stored, expanded, recorded,
      lost, stays⟩ := Reachable.keeps_lost_text outside offered offeredThen different
    exact gone _ rfl world reachable Outage.none id report later ran product details stored
      expanded code text recorded lost stays

/-- With digests of one symbol the first and the third version of the tour share a code. Once the
third has come in, a purge succeeds and the code still has the text of the first. -/
theorem Tour.reissued_code_keeps_text :
    ¬ ∀ (world later : World Unit) (outage : Outage) (report : PurgeReport) (product : Product)
        (details : List PluDetail) (code text : String),
      Reachable (pipeline ⟨digestCode, 1⟩) editions () world →
      ((pipeline ⟨digestCode, 1⟩).purge outage 7).runOn world = (.ok report, later) →
      world.store.products[(7 : Int64)]? = some product →
      product.expand ⟨digestCode, 1⟩ = .ok details →
      (world.store.record 7)[code]? = some text → text ∉ details.flatMap PluDetail.plus →
      later.cache.get? code ≠ some text := by
  intro gone
  have produced : (overtaken ⟨digestCode, 1⟩ 3).store.products[(7 : Int64)]?.map (fun product =>
      (product.expand ⟨digestCode, 1⟩).map fun details =>
        decide ("7|1|4||" ∈ details.flatMap PluDetail.plus)) = some (.ok false) := by
    decide +kernel
  obtain ⟨product, details, stored, expanded, lost⟩ := exists_of_evaluated produced
  have purged : (((pipeline ⟨digestCode, 1⟩).purge Outage.none 7).runOn
      (overtaken ⟨digestCode, 1⟩ 3)).1 = .ok ⟨0, 0⟩ := by decide +kernel
  have recorded : ((overtaken ⟨digestCode, 1⟩ 3).store.record 7)["H"]? = some "7|1|4||" := by
    decide +kernel
  refine gone (overtaken ⟨digestCode, 1⟩ 3) _ Outage.none ⟨0, 0⟩ product details "H" "7|1|4||"
    (reachable_overtaken _ 3) (Prod.ext purged rfl) stored expanded recorded lost ?_
  decide +kernel

/-! ## Texts of other products -/

/-- Some content of a product has a code, and another one that can be expanded has not. -/
def Coding.Retires (coding : Coding) (catalog : Product → Prop) (id : Int64) (code : String) :
    Prop :=
  (∃ text, coding.Offers catalog id code text) ∧ ∃ content current, catalog content ∧
    content.id = id ∧ content.materialize coding = .ok current ∧ code ∉ current.hashes

/-- What the cache has under a code is removed when a product retires the code, whoever else it
was cached for: the other product is published and cached first, then the content with the code
is published, and then the content without it comes in. -/
theorem Reachable.loses_shared_code {γ : Type} (outside : γ) {owner : Int64}
    (retires : coding.Retires catalog id code) (offered : coding.Offers catalog owner code text) :
    ∃ world, Reachable (.caching γ coding) (Product.EntryOf catalog) outside world ∧
      world.cache.get? code = some text ∧
      (((Pipeline.caching γ coding).purge Outage.none id).runOn world).2.cache.get? code =
        none := by
  obtain ⟨⟨old, first, earlier, firstIn, rfl, formed, assigned⟩, second, current, secondIn, own,
    formedThen, absent⟩ := retires
  obtain ⟨third, theirs, thirdIn, rfl, formedThird, assignedThird⟩ := offered
  obtain ⟨before, reachableBefore, present⟩ :=
    Reachable.begins (.caching γ coding) outside thirdIn formedThird (Nat.succ_ne_zero 59)
  obtain ⟨published, reachablePublished, cachePublished, recorded⟩ :=
    reachableBefore.publishes firstIn formed
  obtain ⟨world, reachable, cache, records, product, stored, same⟩ :=
    reachablePublished.ingests secondIn
  rw [own] at stored
  have formedNow := same.materialize_eq.trans formedThen
  obtain ⟨report, later, ran⟩ := Pipeline.purge_succeeds (.caching γ coding) stored formedNow
  have cached : world.cache.get? code = some text := by
    rw [cache, cachePublished]
    exact (present code text assignedThird).2
  refine ⟨world, reachable, cached, ?_⟩
  obtain ⟨_, _, storedThen, formedThen, evicted⟩ := Pipeline.cache_of_purge_ok ran
  cases stored.symm.trans storedThen
  cases formedNow.symm.trans formedThen
  have before : code ∈ world.store.record first.id := by
    rw [records]
    exact PluHashes.mem_iff.mpr ⟨old, recorded code old assigned⟩
  rw [ran, evicted, if_pos ⟨before, absent⟩]

/-- A purge leaves what the cache has for other products in place in all runs if and only if no
code that a product can lose is offered for another one. -/
theorem Pipeline.purge_spares_others_iff {γ : Type} (coding : Coding) (catalog : Product → Prop)
    (outside : γ) :
    (∀ pipeline : Pipeline γ, pipeline.coding = coding →
      ∀ world, Reachable pipeline (Product.EntryOf catalog) outside world →
      ∀ (outage : Outage) (id : Int64) (code text : String) (plu : Plu),
        world.cache.get? code = some text → Plu.read text = .ok plu → plu.productId ≠ id →
          ((pipeline.purge outage id).runOn world).2.cache.get? code = some text) ↔
      ∀ (id owner : Int64) (code text : String), coding.Retires catalog id code →
        coding.Offers catalog owner code text → owner = id := by
  constructor
  case mpr =>
    rintro apart pipeline rfl world reachable outage id code text plu cached read different
    have sound := reachable.sound
    rcases pipeline.cache_of_purge outage id world code with
      same | ⟨product, current, stored, formed, before, gone⟩
    · rw [same, cached]
    · obtain ⟨owner, issued⟩ := sound.cache.cached code text cached
      obtain ⟨_, _, readThen, owned⟩ := issued.addressed
      cases read.symm.trans readThen
      obtain ⟨old, recorded⟩ := PluHashes.mem_iff.mp before
      obtain ⟨content, inCatalog, own, same⟩ := sound.store.content stored
      have offered := Coding.issues_entries_iff.mp (sound.store.recorded id code old recorded)
      have retires : pipeline.coding.Retires catalog id code :=
        ⟨⟨old, offered⟩, content, current, inCatalog, own, same.materialize_eq ▸ formed, gone⟩
      have owner_eq := apart id owner code text retires (Coding.issues_entries_iff.mp issued)
      exact absurd (owned.trans owner_eq) different
  case mp =>
    intro spared id owner code text retires offered
    obtain ⟨_, plu, read, owned⟩ := (Coding.issues_entries_iff.mpr offered).addressed
    obtain ⟨world, reachable, cached, lost⟩ := Reachable.loses_shared_code outside retires offered
    refine Decidable.byContradiction fun different => ?_
    have still := spared _ rfl world reachable Outage.none id code text plu cached read
      (owned.symm ▸ different)
    cases lost.symm.trans still

namespace Tour

/-- Another product with the same kind of ticket. -/
def neighbour : Product := { product with id := 43 }

/-- The neighbour is published, the tour is published after it, and another version of the tour
has come in since. -/
def besides (coding : Coding) : World Unit :=
  let neighbourPublished := (Operation.reconcile Outage.none).perform (pipeline coding)
    (sync.perform (pipeline coding)
      ((Operation.ingest neighbour Outage.none).perform (pipeline coding) (World.initial ())))
  (Operation.ingest (edition 2) Outage.none).perform (pipeline coding)
    (sync.perform (pipeline coding)
      ((Operation.ingest product Outage.none).perform (pipeline coding) neighbourPublished))

/-- The neighbour and the versions of the tour. -/
def neighbourhood (entry : Product) : Prop := entry = neighbour ∨ editions entry

/-- This world can be reached. -/
theorem reachable_besides (coding : Coding) :
    Reachable (pipeline coding) neighbourhood () (besides coding) := by
  have empty : Reachable (pipeline coding) neighbourhood () (World.initial ()) := .start
  have neighbourStored := empty.next (.ingest neighbour Outage.none) ⟨Or.inl rfl, fun _ => rfl⟩
  have neighbourPublished :=
    (neighbourStored.next sync trivial).next (.reconcile Outage.none) trivial
  have stored := neighbourPublished.next (.ingest product Outage.none)
    ⟨Or.inr ⟨1, rfl⟩, fun _ => rfl⟩
  have published := stored.next sync trivial
  exact published.next (.ingest (edition 2) Outage.none) ⟨Or.inr ⟨2, rfl⟩, fun _ => rfl⟩

/-- With digests of one symbol the neighbour and the first version of the tour share a code, which
the second version does not have. Purging the tour then takes the neighbour's text out of the
cache. -/
theorem purge_loses_neighbour :
    ¬ ∀ (world : World Unit) (outage : Outage) (code text : String) (plu : Plu),
      Reachable (pipeline ⟨digestCode, 1⟩) neighbourhood () world →
      world.cache.get? code = some text → Plu.read text = .ok plu → plu.productId ≠ 7 →
        (((pipeline ⟨digestCode, 1⟩).purge outage 7).runOn world).2.cache.get? code =
          some text := by
  intro spared
  have cached : (besides ⟨digestCode, 1⟩).cache.get? "H" = some "43|1|4||" := by decide +kernel
  have read : Plu.read "43|1|4||" = .ok ⟨43, 1, 4, "", ""⟩ := by decide +kernel
  have lost : (((pipeline ⟨digestCode, 1⟩).purge Outage.none 7).runOn
      (besides ⟨digestCode, 1⟩)).2.cache.get? "H" = none := by decide +kernel
  have still := spared (besides ⟨digestCode, 1⟩) Outage.none "H" "43|1|4||" _
    (reachable_besides ⟨digestCode, 1⟩) cached read (by decide)
  cases lost.symm.trans still

end Tour

end Syndication
