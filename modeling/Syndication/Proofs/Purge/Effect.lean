import Mathlib.Control.Monad.Basic
import Syndication.Pipeline
import Syndication.Proofs.Attempt.Services
import Syndication.Proofs.Cache.Eviction

/-!
# What a purge does

A purge that gets as far as the record of its product replaces the record by the texts that the
stored product has now. Then it removes the codes that are gone from the record out of the
cache, until a removal fails. Otherwise it changes nothing. `PurgeOutcome` lists these cases
with the conditions under which each arises, so that nothing else has to look into a purge.
-/

namespace Syndication

open Attempt

namespace Backend

/-- The codes that are gone from a record when it is replaced, in order. -/
def retiredCodes (backend : Backend) (id : Int64) (current : PluHashes) : List String :=
  (backend.store.record id \ current).keys

/-- The services after a record was replaced and the codes gone from it were evicted. -/
def purged (backend : Backend) (outage : Outage) (id : Int64) (current : PluHashes) : Backend where
  store := (backend.store.replaceHashes id current).2
  cache := backend.cache.without (outage.removable (backend.retiredCodes id current))

/-- The report of a purge that finishes: how many codes are gone, and how many of them had an
entry in the cache. -/
def purgeReport (backend : Backend) (id : Int64) (current : PluHashes) : PurgeReport where
  retired := (backend.retiredCodes id current).length
  evicted := (backend.retiredCodes id current).countP fun code => (backend.cache.delete code).1

variable {backend : Backend} {id : Int64} {current : PluHashes} {code : String}

/-- The codes that are gone are those of the old record that the new one does not have. -/
theorem mem_retiredCodes_iff : code ∈ backend.retiredCodes id current ↔
    code ∈ backend.store.record id ∧ code ∉ current := by
  rw [retiredCodes, Std.ExtTreeMap.mem_keys, Std.ExtTreeMap.mem_diff_iff]

/-- No code is gone twice. -/
theorem nodup_retiredCodes : (backend.retiredCodes id current).Nodup := Std.ExtTreeMap.nodup_keys

end Backend

/-- What a purge can lead to: its result and the services it leaves. -/
inductive PurgeOutcome (coding : Coding) (outage : Outage) (id : Int64) (backend : Backend) :
    Except ViewError PurgeReport × Backend → Prop
  /-- The product is not there, cannot be expanded, or the store is out of reach. -/
  | refused (cause : ViewError) (beforeCache : ∀ failure, cause ≠ .cache failure)
      (hindered : outage.store (.getProduct id) = none → outage.store (.replaceHashes id) = none →
        ∀ product current, backend.store.products[id]? = some product →
          product.materialize coding ≠ .ok current) :
      PurgeOutcome coding outage id backend (.error cause, backend)
  /-- The record is replaced, and a code that is gone from it cannot be removed. -/
  | interrupted (product : Product) (current : Materialized) (failure : CacheError)
      (stored : backend.store.products[id]? = some product)
      (formed : product.materialize coding = .ok current)
      (stopped : outage.removable (backend.retiredCodes id current.hashes) ≠
        backend.retiredCodes id current.hashes) :
      PurgeOutcome coding outage id backend
        (.error (.cache failure), backend.purged outage id current.hashes)
  /-- The record is replaced and all codes that are gone from it are removed. -/
  | finished (product : Product) (current : Materialized)
      (stored : backend.store.products[id]? = some product)
      (formed : product.materialize coding = .ok current)
      (removed : outage.removable (backend.retiredCodes id current.hashes) =
        backend.retiredCodes id current.hashes) :
      PurgeOutcome coding outage id backend
        (.ok (backend.purgeReport id current.hashes), backend.purged outage id current.hashes)

variable {coding : Coding} {outage : Outage} {id : Int64} {backend : Backend}

/-- Once the record is replaced, the eviction decides whether the purge is interrupted or
finished. -/
theorem purgeOutcome_of_replaced {product : Product} {current : Materialized}
    (stored : backend.store.products[id]? = some product)
    (formed : product.materialize coding = .ok current) :
    PurgeOutcome coding outage id backend
      ((do
        let evicted ← Backend.onCache
          ((evict outage (backend.retiredCodes id current.hashes)).mapError ViewError.cache)
        return ⟨(backend.store.record id \ current.hashes).size, evicted⟩ :
          Attempt Backend ViewError PurgeReport).runOn
        { backend with store := (backend.store.replaceHashes id current.hashes).2 }) := by
  obtain ⟨later, counted⟩ := runOn_evict outage Backend.nodup_retiredCodes backend.cache
  rw [runOn_bind, Backend.runOn_onCache, runOn_mapError]
  simp only
  rw [later]
  cases ran : ((evict outage (backend.retiredCodes id current.hashes)).runOn backend.cache).1 with
  | ok evicted =>
    obtain ⟨removed, rfl⟩ := (counted evicted).mp ran
    rw [← Std.ExtTreeMap.length_keys]
    exact .finished product current stored formed removed
  | error failure =>
    refine .interrupted product current failure stored formed fun removed => ?_
    cases ran.symm.trans ((counted _).mpr ⟨removed, rfl⟩)

/-- A purge has one of these outcomes. -/
theorem purgeRetired_outcome (coding : Coding) (outage : Outage) (id : Int64) (backend : Backend) :
    PurgeOutcome coding outage id backend ((purgeRetired coding outage id).runOn backend) := by
  rw [purgeRetired, runOn_bind, Backend.runOn_onStore, runOn_mapError, Outage.getProduct,
    Outage.runOn_onStore]
  cases reached : outage.store (.getProduct id) with
  | some reason =>
    refine .refused (.store (.unavailable reason)) (by simp) fun inReach => ?_
    cases reached.symm.trans inReach
  | none =>
    cases stored : backend.store.products[id]? with
    | none =>
      show PurgeOutcome coding outage id backend (.error (.productNotFound id), backend)
      refine .refused (.productNotFound id) (by simp) fun _ _ product current found => ?_
      cases stored.symm.trans found
    | some product =>
      simp only [Except.mapError]
      rw [runOn_bind, runOn_mapError, runOn_ofExcept]
      cases formed : product.materialize coding with
      | error cause =>
        refine .refused (.integrity cause) (by simp) fun _ _ other current found => ?_
        cases stored.symm.trans found
        simp [formed]
      | ok current =>
        simp only [Except.mapError]
        rw [runOn_bind, Backend.runOn_onStore, runOn_mapError, Outage.replaceHashes,
          Outage.runOn_onStore]
        cases written : outage.store (.replaceHashes id) with
        | some reason =>
          refine .refused (.store (.unavailable reason)) (by simp) fun _ inReach => ?_
          cases written.symm.trans inReach
        | none => exact purgeOutcome_of_replaced stored formed

/-- The pipeline's purge has the outcome of the purge of its services. -/
theorem Pipeline.runOn_purge {γ : Type} (pipeline : Pipeline γ) (outage : Outage) (id : Int64)
    (world : World γ) :
    (pipeline.purge outage id).runOn world =
      (((purgeRetired pipeline.coding outage id).runOn world.backend).1.mapError .materialize,
        { world with
          backend := ((purgeRetired pipeline.coding outage id).runOn world.backend).2 }) := by
  rw [purge, World.runOn_onBackend, runOn_mapError]

end Syndication
