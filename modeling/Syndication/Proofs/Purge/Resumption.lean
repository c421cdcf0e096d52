import Syndication.Proofs.Purge.Effect
import Syndication.Proofs.Run.Operations

/-!
# Purging again after an interruption

A purge replaces the record before it evicts the codes that are gone from it, and the old record
is the only place that knows those codes. An interrupted purge therefore leaves a record that is
up to date, and purging again finds nothing to do: whatever fails, it changes nothing, and when
it succeeds it reports that no code was retired. The codes that the first purge did not get to
stay in the cache.
-/

namespace Syndication

open Attempt

namespace Backend

variable {backend : Backend} {outage : Outage} {id : Int64} {current : PluHashes}

/-- After a replacement the record is the new one. -/
theorem records_purged : (backend.purged outage id current).store.records[id]? = some current := by
  simp [purged, Store.replaceHashes]

/-- From a record that is up to date no code is gone. -/
theorem retiredCodes_of_recorded (recorded : backend.store.records[id]? = some current) :
    backend.retiredCodes id current = [] := by
  refine List.eq_nil_iff_forall_not_mem.mpr fun code member => ?_
  obtain ⟨before, after⟩ := mem_retiredCodes_iff.mp member
  rw [Store.record, Std.ExtTreeMap.getD_eq_getD_getElem?, recorded] at before
  exact after before

/-- A record that is up to date is replaced by itself, and nothing is evicted. -/
theorem purged_of_recorded (recorded : backend.store.records[id]? = some current) :
    backend.purged outage id current = backend := by
  have records : backend.store.records.insert id current = backend.store.records := by
    refine Std.ExtTreeMap.ext_getElem? fun key => ?_
    by_cases here : id = key
    · subst here
      rw [Std.ExtTreeMap.getElem?_insert_self, recorded]
    · simp [Std.ExtTreeMap.getElem?_insert, here]
  rw [purged, retiredCodes_of_recorded recorded, Store.replaceHashes, records]
  rfl

end Backend

namespace Pipeline

variable {γ : Type} {pipeline : Pipeline γ} {world : World γ} {id : Int64}

/-- A purge of a product whose record is up to date changes nothing. If it succeeds it reports
nothing, and no code is in its way. -/
theorem purge_of_recorded {product : Product} {current : Materialized}
    (stored : world.store.products[id]? = some product)
    (formed : product.materialize pipeline.coding = .ok current)
    (recorded : world.store.records[id]? = some current.hashes) (outage : Outage) :
    ((pipeline.purge outage id).runOn world).2 = world ∧
      (∀ report, ((pipeline.purge outage id).runOn world).1 = .ok report → report = ⟨0, 0⟩) ∧
      ∀ failure, ((pipeline.purge outage id).runOn world).1 ≠
        .error (.materialize (.cache failure)) := by
  have outcome := purgeRetired_outcome pipeline.coding outage id world.backend
  rw [runOn_purge]
  generalize (purgeRetired pipeline.coding outage id).runOn world.backend = ran at outcome
  cases outcome with
  | refused cause beforeCache _ =>
    refine ⟨rfl, nofun, fun failure same => beforeCache failure ?_⟩
    cases same
    rfl
  | interrupted other found failure storedThen formedThen stopped =>
    cases stored.symm.trans storedThen
    cases formed.symm.trans formedThen
    rw [Backend.retiredCodes_of_recorded recorded] at stopped
    exact absurd rfl stopped
  | finished other found storedThen formedThen removed =>
    cases stored.symm.trans storedThen
    cases formed.symm.trans formedThen
    refine ⟨?_, fun report same => ?_, nofun⟩
    · rw [Backend.purged_of_recorded recorded]
    · cases same
      rw [Backend.purgeReport, Backend.retiredCodes_of_recorded recorded]
      rfl

/-- The world after purges of a product one after the other, each under an outage of its own. -/
def purgeEach (pipeline : Pipeline γ) (id : Int64) (outages : List Outage) (world : World γ) :
    World γ :=
  outages.foldl (fun world outage => ((pipeline.purge outage id).runOn world).2) world

/-- Purges of a product whose record is up to date change nothing. -/
theorem purgeEach_of_recorded {product : Product} {current : Materialized}
    (stored : world.store.products[id]? = some product)
    (formed : product.materialize pipeline.coding = .ok current)
    (recorded : world.store.records[id]? = some current.hashes) (outages : List Outage) :
    pipeline.purgeEach id outages world = world := by
  induction outages with
  | nil => rfl
  | cons outage rest inductionHypothesis =>
    rw [purgeEach, List.foldl_cons, (purge_of_recorded stored formed recorded outage).1]
    exact inductionHypothesis

/-- An interrupted purge is never finished. Whatever purges follow, one that succeeds reports that
nothing was retired and leaves the world as the interrupted one did. The codes of the old record
that the product does not produce any more are gone from the cache then exactly if those that
were cached come before the first one that could not be removed. -/
theorem purge_after_interruption {outage : Outage} {failure : CacheError}
    (interrupted : ((pipeline.purge outage id).runOn world).1 =
      .error (.materialize (.cache failure))) :
    ∃ product current, world.store.products[id]? = some product ∧
      product.materialize pipeline.coding = .ok current ∧
      ∀ (retries : List Outage) (last : Outage) (report : PurgeReport) (later : World γ),
        (pipeline.purge last id).runOn (pipeline.purgeEach id (outage :: retries) world) =
            (.ok report, later) →
          report = ⟨0, 0⟩ ∧ later = ((pipeline.purge outage id).runOn world).2 ∧
          ((∀ code ∈ world.store.record id, code ∉ current.hashes →
              later.cache.get? code = none) ↔
            ∀ code ∈ world.store.record id, code ∉ current.hashes → world.cache.get? code ≠ none →
              code ∈ outage.removable (world.backend.retiredCodes id current.hashes)) := by
  have outcome := purgeRetired_outcome pipeline.coding outage id world.backend
  have ran := pipeline.runOn_purge outage id world
  generalize (purgeRetired pipeline.coding outage id).runOn world.backend = result at outcome ran
  rw [ran] at interrupted
  cases outcome with
  | refused cause beforeCache _ =>
    cases cause with
    | cache found => exact absurd rfl (beforeCache found)
    | integrity | store | productNotFound => cases interrupted
  | finished => cases interrupted
  | interrupted product current _ stored formed _ =>
    refine ⟨product, current, stored, formed, fun retries last report later again => ?_⟩
    rw [ran]
    -- The record is up to date from here on, so nothing that follows changes anything.
    let left : World γ := { world with backend := world.backend.purged outage id current.hashes }
    have storedLeft : left.store.products[id]? = some product := stored
    have recorded : left.store.records[id]? = some current.hashes := Backend.records_purged
    have unchanged : pipeline.purgeEach id (outage :: retries) world = left := by
      rw [purgeEach, List.foldl_cons, ran]
      exact purgeEach_of_recorded storedLeft formed recorded retries
    obtain ⟨same, reported, _⟩ := purge_of_recorded storedLeft formed recorded last
    rw [← unchanged, again] at same reported
    refine ⟨reported report rfl, same.trans unchanged, ?_⟩
    rw [show later = left from same.trans unchanged]
    have evicted : ∀ code, left.cache.get? code =
        if code ∈ outage.removable (world.backend.retiredCodes id current.hashes) then none
        else world.cache.get? code := Cache.get?_without world.cache _
    refine forall_congr' fun code => forall_congr' fun _ => forall_congr' fun _ => ?_
    rw [evicted]
    split
    case isTrue removed => exact iff_of_true rfl fun _ => removed
    case isFalse remained =>
      refine ⟨fun absent cached => absurd absent cached, fun removed => ?_⟩
      exact Decidable.byContradiction fun cached => remained (removed cached)

end Pipeline

/-! ## The tour in its second version -/

namespace Tour

/-- Nothing can be removed from the cache. -/
def stuckCache : Outage where
  store _ := none
  cache
    | .delete _ => some "cache_delete failed"
    | _ => none

/-- While nothing can be removed from the cache, a purge of the second version is interrupted. The
next one succeeds with nothing to report, and the code of the first version is still cached. -/
theorem interrupted_purge_again :
    (((pipeline ⟨digestCode, 12⟩).purge stuckCache 7).runOn (overtaken ⟨digestCode, 12⟩ 2)).1 =
        .error (.materialize (.cache (.unavailable "cache_delete failed"))) ∧
      (((pipeline ⟨digestCode, 12⟩).purge Outage.none 7).runOn
        ((pipeline ⟨digestCode, 12⟩).purgeEach 7 [stuckCache] (overtaken ⟨digestCode, 12⟩ 2))).1 =
          .ok ⟨0, 0⟩ ∧
      (((pipeline ⟨digestCode, 12⟩).purge Outage.none 7).runOn
        ((pipeline ⟨digestCode, 12⟩).purgeEach 7 [stuckCache]
          (overtaken ⟨digestCode, 12⟩ 2))).2.cache.get? "HX3GDJSA6ZH1" = some "7|1|4||" := by
  have stopped : (((pipeline ⟨digestCode, 12⟩).purge stuckCache 7).runOn
      (overtaken ⟨digestCode, 12⟩ 2)).1 =
        .error (.materialize (.cache (.unavailable "cache_delete failed"))) := by decide +kernel
  have again : (((pipeline ⟨digestCode, 12⟩).purge Outage.none 7).runOn
      ((pipeline ⟨digestCode, 12⟩).purgeEach 7 [stuckCache] (overtaken ⟨digestCode, 12⟩ 2))).1 =
        .ok ⟨0, 0⟩ := by decide +kernel
  obtain ⟨_, _, _, _, finished⟩ := Pipeline.purge_after_interruption stopped
  obtain ⟨_, same, _⟩ := finished [] Outage.none ⟨0, 0⟩ _ (Prod.ext again rfl)
  have cached : (((pipeline ⟨digestCode, 12⟩).purge stuckCache 7).runOn
      (overtaken ⟨digestCode, 12⟩ 2)).2.cache.get? "HX3GDJSA6ZH1" = some "7|1|4||" := by
    decide +kernel
  have stays := congrArg (fun later => later.cache.get? "HX3GDJSA6ZH1") same
  exact ⟨stopped, again, stays.trans cached⟩

/-- So a purge that succeeds after an interrupted one does not mean that the codes which the tour
has lost are gone from the cache. -/
theorem retired_code_outlives_retry :
    ¬ ∀ (world : World Unit) (first last : Outage) (failure : CacheError) (report : PurgeReport)
        (later : World Unit) (product : Product) (current : Materialized) (code : String),
      Reachable (pipeline ⟨digestCode, 12⟩) editions () world →
      ((((pipeline ⟨digestCode, 12⟩).purge first 7).runOn world).1 =
        .error (.materialize (.cache failure))) →
      ((pipeline ⟨digestCode, 12⟩).purge last 7).runOn
        (((pipeline ⟨digestCode, 12⟩).purge first 7).runOn world).2 = (.ok report, later) →
      world.store.products[(7 : Int64)]? = some product →
      product.materialize ⟨digestCode, 12⟩ = .ok current →
      code ∈ world.store.record 7 → code ∉ current.hashes → later.cache.get? code = none := by
  intro finishes
  have produced : (overtaken ⟨digestCode, 12⟩ 2).store.products[(7 : Int64)]?.map (fun product =>
      (product.materialize ⟨digestCode, 12⟩).map fun current =>
        decide ("HX3GDJSA6ZH1" ∈ current.hashes)) = some (.ok false) := by decide +kernel
  obtain ⟨product, current, stored, formed, lost⟩ := exists_of_evaluated produced
  have absent := finishes (overtaken ⟨digestCode, 12⟩ 2) stuckCache Outage.none
    (.unavailable "cache_delete failed") ⟨0, 0⟩ _ product current "HX3GDJSA6ZH1"
    (reachable_overtaken _ 2) (by decide +kernel) (Prod.ext (by decide +kernel) rfl) stored
    formed (by decide +kernel) lost
  have cached : (((pipeline ⟨digestCode, 12⟩).purge Outage.none 7).runOn
      (((pipeline ⟨digestCode, 12⟩).purge stuckCache 7).runOn
        (overtaken ⟨digestCode, 12⟩ 2)).2).2.cache.get? "HX3GDJSA6ZH1" = some "7|1|4||" := by
    decide +kernel
  cases absent.symm.trans cached

end Tour

end Syndication
