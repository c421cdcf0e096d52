import Syndication.Proofs.Purge.Overlap
import Syndication.Proofs.Purge.Resumption
import Syndication.Proofs.Run.Records

/-!
# What a successful purge leaves

A purge that succeeds leaves the record of its product with what the product produces, and the cache
without the codes that are gone from the record. Nothing else is different: `Aftermath` says so, in
both directions and with the numbers reported. An expired entry counts as evicted, since it is in
the cache until it is removed.

Reconciliation copies records. So a retired code is not cached again unless a record has it again:
that of another product, or that of its own, into which only a publication or a purge at which the
product produces the code can bring it. Purging again at once finds nothing to do.
-/

namespace Syndication

open Attempt

/-! ## Slots of the cache -/

namespace Cache

/-- There is an entry under a code, be it live or expired. -/
def holds (cache : Cache) (code : String) : Bool :=
  (cache.slot code).1.isSome || (cache.slot code).2

/-- A removal finds what the cache holds. -/
theorem delete_fst (cache : Cache) (code : String) : (cache.delete code).1 = cache.holds code := by
  rw [delete, contains_eq_isSome]
  rfl

/-- A removal empties the slot of its code and no other. -/
theorem slot_delete (cache : Cache) (code other : String) :
    (cache.delete code).2.slot other =
      if code = other then (none, false) else cache.slot other := by
  rw [slot, get?_delete, delete]
  by_cases same : code = other
  · simp [same]
  · simp [same, slot, Std.ExtTreeMap.contains_erase]

/-- Several removals empty the slots of their codes and no others. -/
theorem slot_without (cache : Cache) (codes : List String) (other : String) :
    (cache.without codes).slot other =
      if other ∈ codes then (none, false) else cache.slot other := by
  induction codes generalizing cache with
  | nil => simp [without]
  | cons code rest inductionHypothesis =>
    show ((cache.delete code).2.without rest).slot other = _
    rw [inductionHypothesis, slot_delete]
    by_cases here : code = other
    · simp [here]
    · simp [here, Ne.symm here]

end Cache

section Purge

variable {γ : Type} {pipeline : Pipeline γ} {outage : Outage} {id : Int64} {world later : World γ}
  {report : PurgeReport} {code : String}

namespace Pipeline

/-- A reconciliation pass changes no slot of a code that no record has. -/
theorem slot_runReconcile (pipeline : Pipeline γ) (outage : Outage)
    (absent : ∀ id, code ∉ world.store.record id) :
    ((pipeline.runReconcile outage).runOn world).2.cache.slot code = world.cache.slot code := by
  cases inReach : outage.store .loadRecords with
  | some reason =>
    rw [runReconcile, runOn_bind, World.runOn_onBackend, runOn_mapError,
      runOn_reconcile_of_fails inReach]
    rfl
  | none =>
    obtain ⟨_, later, ran, left, _⟩ := runOn_runReconcile pipeline world inReach
    rw [ran]
    show later.backend.cache.slot code = _
    rw [left]
    refine Cache.slot_filled fun entry member same => ?_
    have agreed : (entry.1, entry.2) ∈ world.backend.agreed := (List.mem_filter.mp member).1
    obtain ⟨⟨id, recorded⟩, _⟩ := Store.flattened_iff.mp (Backend.mem_agreed_iff.mp agreed)
    rw [same] at recorded
    exact absent id (PluHashes.mem_iff.mpr ⟨_, recorded⟩)

end Pipeline

/-! ## What is left -/

/-- What a purge that succeeds leaves, given the codes that its product produces. -/
structure Aftermath (id : Int64) (current : PluHashes) (before : World γ) (report : PurgeReport)
    (after : World γ) : Prop where
  recorded : after.store.records[id]? = some current
  others : ∀ other, other ≠ id → after.store.records[other]? = before.store.records[other]?
  products : after.store.products = before.store.products
  views : after.store.views = before.store.views
  images : after.store.images = before.store.images
  contents : after.store.contents = before.store.contents
  cache : ∀ code, after.cache.slot code =
    if code ∈ before.store.record id ∧ code ∉ current then (none, false)
    else before.cache.slot code
  counted : ∃ retired : List String, retired.Nodup ∧
    (∀ code, code ∈ retired ↔ code ∈ before.store.record id ∧ code ∉ current) ∧
    report.retired = retired.length ∧ report.evicted = retired.countP before.cache.holds

namespace Pipeline

/-- A purge that succeeds leaves what it should. -/
theorem aftermath_of_purge (ran : (pipeline.purge outage id).runOn world = (.ok report, later)) :
    ∃ product current, world.store.products[id]? = some product ∧
      product.materialize pipeline.coding = .ok current ∧
      Aftermath id current.hashes world report later := by
  have outcome := purgeRetired_outcome pipeline.coding outage id world.backend
  rw [runOn_purge] at ran
  generalize (purgeRetired pipeline.coding outage id).runOn world.backend = result at outcome ran
  cases outcome with
  | refused | interrupted => cases ran
  | finished product current stored formed removed =>
    cases ran
    refine ⟨product, current, stored, formed, Backend.records_purged, fun other different => ?_,
      rfl, rfl, rfl, rfl, fun code => ?_, _, Backend.nodup_retiredCodes,
      fun code => Backend.mem_retiredCodes_iff, rfl, ?_⟩
    · show (world.store.records.insert id current.hashes)[other]? = _
      simp [Std.ExtTreeMap.getElem?_insert, Ne.symm different]
    · show (world.cache.without _).slot code = _
      rw [removed, Cache.slot_without]
      simp only [Backend.mem_retiredCodes_iff]
      rfl
    · exact List.countP_congr fun code _ => by rw [Cache.delete_fst]; rfl

/-- A purge of a product whose record is up to date succeeds when the store is in reach. -/
theorem purge_of_recorded_ok {product : Product} {current : Materialized}
    (stored : world.store.products[id]? = some product)
    (formed : product.materialize pipeline.coding = .ok current)
    (recorded : world.store.records[id]? = some current.hashes)
    (read : outage.store (.getProduct id) = none)
    (written : outage.store (.replaceHashes id) = none) :
    ((pipeline.purge outage id).runOn world).1 = .ok ⟨0, 0⟩ := by
  obtain ⟨_, reported, _⟩ := purge_of_recorded stored formed recorded outage
  have outcome := purgeRetired_outcome pipeline.coding outage id world.backend
  rw [runOn_purge] at reported ⊢
  generalize (purgeRetired pipeline.coding outage id).runOn world.backend = result
    at outcome reported
  cases outcome with
  | refused _ _ hindered => exact absurd formed (hindered read written product current stored)
  | interrupted other found _ storedThen formedThen stopped =>
    cases stored.symm.trans storedThen
    cases formed.symm.trans formedThen
    rw [Backend.retiredCodes_of_recorded recorded] at stopped
    exact absurd rfl stopped
  | finished => exact congrArg Except.ok (reported _ rfl)

/-- A purge that succeeds has exactly the effect that it should have. The record of the product is
what the product produces, the cache is without the codes that are gone from the record, the report
counts them and the entries there were for them, and nothing else in the store is different.

No reconciliation pass at any later point of a run changes the slot of such a code, provided that
no operation before it has published the product, or purged it while it produced the code, and that
no other product's record has the code. Purging again at once changes nothing, and reports nothing
when it succeeds, which it does when the store is in reach. -/
theorem purge_aftermath (ran : (pipeline.purge outage id).runOn world = (.ok report, later)) :
    ∃ product current, world.store.products[id]? = some product ∧
      product.materialize pipeline.coding = .ok current ∧
      Aftermath id current.hashes world report later ∧
      (∀ code ∈ world.store.record id, code ∉ current.hashes → ∀ reached,
        pipeline.Leads (fun world operation => operation.Renews pipeline id code world) later
          reached →
        (∀ other, other ≠ id → code ∉ reached.store.record other) → ∀ pass : Outage,
          ((pipeline.runReconcile pass).runOn reached).2.cache.slot code =
            reached.cache.slot code) ∧
      ∀ again : Outage, ((pipeline.purge again id).runOn later).2 = later ∧
        (∀ second, ((pipeline.purge again id).runOn later).1 = .ok second → second = ⟨0, 0⟩) ∧
        (again.store (.getProduct id) = none → again.store (.replaceHashes id) = none →
          ((pipeline.purge again id).runOn later).1 = .ok ⟨0, 0⟩) := by
  obtain ⟨product, current, stored, formed, aftermath⟩ := aftermath_of_purge ran
  refine ⟨product, current, stored, formed, aftermath, ?_, fun again => ?_⟩
  · intro code _ gone reached led elsewhere pass
    have record : later.store.record id = current.hashes := by
      rw [Store.record, Std.ExtTreeMap.getD_eq_getD_getElem?, aftermath.recorded]
      rfl
    have absent : code ∉ reached.store.record id := led.not_mem_record (record ▸ gone)
    apply pipeline.slot_runReconcile pass
    intro other
    by_cases own : other = id
    · rwa [own]
    · exact elsewhere other own
  · have storedThen : later.store.products[id]? = some product := aftermath.products ▸ stored
    obtain ⟨unchanged, reported, _⟩ :=
      purge_of_recorded storedThen formed aftermath.recorded again
    exact ⟨unchanged, reported, purge_of_recorded_ok storedThen formed aftermath.recorded⟩

end Pipeline

end Purge

/-! ## More than a purge promises -/

namespace Tour

/-- When the tour is the only product with a record, no other has a code recorded. -/
theorem not_mem_record_of_alone {world : World Unit} {id : Int64} {code : String}
    (alone : world.store.records.toList.map Prod.fst = [7]) (different : id ≠ 7) :
    code ∉ world.store.record id := by
  intro member
  obtain ⟨text, assigned⟩ := PluHashes.mem_iff.mp member
  obtain ⟨hashes, listed, _⟩ := Store.record_eq_some_iff.mp assigned
  have among : id ∈ world.store.records.toList.map Prod.fst := List.mem_map_of_mem listed
  rw [alone, List.mem_singleton] at among
  exact different among

/-- The code of the first version is retired when the second has come in. It was cached and is not
any more, and a reconciliation pass does not bring it back. -/
theorem overtaken_purged : ∃ report later,
    ((pipeline ⟨digestCode, 12⟩).purge Outage.none 7).runOn (overtaken ⟨digestCode, 12⟩ 2) =
      (.ok report, later) ∧
    report = ⟨1, 1⟩ ∧ later.cache.slot "HX3GDJSA6ZH1" = (none, false) ∧
    (((pipeline ⟨digestCode, 12⟩).runReconcile Outage.none).runOn later).2.cache.slot
      "HX3GDJSA6ZH1" = (none, false) ∧
    (((pipeline ⟨digestCode, 12⟩).purge Outage.none 7).runOn later).1 = .ok ⟨0, 0⟩ := by
  have ran : (((pipeline ⟨digestCode, 12⟩).purge Outage.none 7).runOn
      (overtaken ⟨digestCode, 12⟩ 2)).1 = .ok ⟨1, 1⟩ := by decide +kernel
  have alone : ((((pipeline ⟨digestCode, 12⟩).purge Outage.none 7).runOn
      (overtaken ⟨digestCode, 12⟩ 2)).2.store.records.toList.map Prod.fst) = [7] := by
    decide +kernel
  obtain ⟨product, current, stored, formed, recorded, lost⟩ := overtaken_loses_code
  obtain ⟨_, _, storedThen, formedThen, aftermath, gone, again⟩ :=
    Pipeline.purge_aftermath (Prod.ext ran rfl)
  cases stored.symm.trans storedThen
  cases formed.symm.trans formedThen
  have empty := aftermath.cache "HX3GDJSA6ZH1"
  rw [if_pos ⟨recorded, lost⟩] at empty
  refine ⟨_, _, Prod.ext ran rfl, rfl, empty, ?_, (again Outage.none).2.2 rfl rfl⟩
  have stays := gone _ recorded lost _ .start
    (fun _ different => not_mem_record_of_alone alone different) Outage.none
  exact stays.trans empty

/-- A pipeline whose entries have no time to live. -/
def fleeting : Pipeline Unit := ⟨⟨digestCode, 12⟩, 0, collaborators⟩

/-- The tour was published and its code copied without a time to live, and then the second version
came in. -/
def expired : World Unit :=
  [.ingest product Outage.none, sync, .reconcile Outage.none, .ingest (edition 2) Outage.none].foldl
    (fun world operation => operation.perform fleeting world) (World.initial ())

/-- The purge is over, the first version came in again, and the tour was purged again. -/
def renewed : World Unit :=
  (Operation.purge 7 Outage.none).perform (pipeline ⟨digestCode, 12⟩)
    ((Operation.ingest (edition 1) Outage.none).perform (pipeline ⟨digestCode, 12⟩)
      (((pipeline ⟨digestCode, 12⟩).purge Outage.none 7).runOn (overtaken ⟨digestCode, 12⟩ 2)).2)

/-- A purge does not keep a retired code out for good without a publication: when the first version
comes in again and the tour is purged again, the code is back in the record, and a reconciliation
pass copies it. Nor does it count the codes that had a value: an expired entry is evicted as
well. -/
theorem retired_code_recorded_again :
    (¬ ∀ (world later reached : World Unit) (outage pass : Outage) (report : PurgeReport)
        (product : Product) (current : Materialized) (code : String),
      ((pipeline ⟨digestCode, 12⟩).purge outage 7).runOn world = (.ok report, later) →
      world.store.products[(7 : Int64)]? = some product →
      product.materialize ⟨digestCode, 12⟩ = .ok current →
      code ∈ world.store.record 7 → code ∉ current.hashes →
      (pipeline ⟨digestCode, 12⟩).Leads (fun world operation => ∃ id, operation.Publishes id world)
        later reached →
      (∀ other, other ≠ 7 → code ∉ reached.store.record other) →
      reached.cache.get? code = none →
      (((pipeline ⟨digestCode, 12⟩).runReconcile pass).runOn reached).2.cache.get? code = none) ∧
    ¬ ∀ (world later : World Unit) (outage : Outage) (report : PurgeReport) (product : Product)
        (current : Materialized) (retired : List String),
      (fleeting.purge outage 7).runOn world = (.ok report, later) →
      world.store.products[(7 : Int64)]? = some product →
      product.materialize ⟨digestCode, 12⟩ = .ok current →
      retired.Nodup → (∀ code, code ∈ retired ↔ code ∈ world.store.record 7 ∧
        code ∉ current.hashes) →
      report.evicted = retired.countP world.cache.contains := by
  constructor
  · intro kept
    have ran : (((pipeline ⟨digestCode, 12⟩).purge Outage.none 7).runOn
        (overtaken ⟨digestCode, 12⟩ 2)).1 = .ok ⟨1, 1⟩ := by decide +kernel
    have alone : renewed.store.records.toList.map Prod.fst = [7] := by decide +kernel
    have unpublished : (pipeline ⟨digestCode, 12⟩).Leads
        (fun world operation => ∃ id, operation.Publishes id world)
        (((pipeline ⟨digestCode, 12⟩).purge Outage.none 7).runOn (overtaken ⟨digestCode, 12⟩ 2)).2
        renewed :=
      .next (.purge 7 Outage.none) (.next (.ingest (edition 1) Outage.none) .start
        fun ⟨_, published⟩ => published) fun ⟨_, published⟩ => published
    obtain ⟨product, current, stored, formed, recorded, lost⟩ := overtaken_loses_code
    have absent := kept _ _ renewed Outage.none Outage.none _ product current _ (Prod.ext ran rfl)
      stored formed recorded lost unpublished
      (fun _ different => not_mem_record_of_alone alone different) (by decide +kernel)
    have cached : (((pipeline ⟨digestCode, 12⟩).runReconcile Outage.none).runOn
        renewed).2.cache.get? "HX3GDJSA6ZH1" = some "7|1|4||" := by decide +kernel
    cases absent.symm.trans cached
  · intro counted
    have ran : ((fleeting.purge Outage.none 7).runOn expired).1 = .ok ⟨1, 1⟩ := by decide +kernel
    have cached : expired.store.products[(7 : Int64)]?.map (fun product =>
        (product.materialize ⟨digestCode, 12⟩).map fun current =>
          decide (1 = (expired.backend.retiredCodes 7 current.hashes).countP
            expired.cache.contains)) = some (.ok false) := by decide +kernel
    obtain ⟨product, current, stored, formed, none⟩ := exists_of_evaluated cached
    exact none (counted expired _ Outage.none ⟨1, 1⟩ product current _ (Prod.ext ran rfl) stored
      formed Backend.nodup_retiredCodes fun code => Backend.mem_retiredCodes_iff)

end Tour

end Syndication
