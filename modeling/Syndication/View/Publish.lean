import Syndication.Backend
import Syndication.View.Materialize

/-!
# Publishing the view

Publishing a product stores its view, adds its texts to those published for it and,
once both are written, marks the view stage complete. Texts published earlier stay,
since orders in flight may still refer to them; purging is what drops the ones that
the product no longer produces, from the record first and then from the cache.

A failure ends the attempt where it happens. Nothing is marked complete then, so the
product is a candidate of the next pass again.
-/

namespace Syndication

/-- Why a product could not be published or purged. -/
inductive ViewError where
  | integrity (cause : ExpansionError)
  | store (cause : StoreError)
  | cache (cause : CacheError)
  | productNotFound (id : Int64)
  deriving DecidableEq, Repr

/-- The message of a publication error. -/
def ViewError.message : ViewError → String
  | .integrity cause => "PLU integrity error: " ++ cause.message
  | .store cause => "document store error: " ++ cause.message
  | .cache cause => "cache error: " ++ cause.message
  | .productNotFound id => "product " ++ toString id.toInt ++ " not found"

/-- True for errors that the product itself causes. -/
def ViewError.isIntegrity : ViewError → Bool
  | .integrity _ => true
  | _ => false

/-- What publishing a product did: what was stored, how many of its codes are new, and
the status reached. -/
structure Published where
  materialized : Materialized
  newHashes : Nat
  status : SyncStatus
  deriving DecidableEq

/-- How many codes a purge dropped, and how many of them were cached. -/
structure PurgeReport where
  retired : Nat
  evicted : Nat
  deriving DecidableEq, Repr

/-- Publishes a product. -/
def publish (coding : Coding) (outage : Outage) (product : Product) :
    Attempt Store ViewError Published := do
  let materialized ← (Attempt.ofExcept (product.materialize coding)).mapError .integrity
  (outage.upsertView materialized.view).mapError .store
  let newHashes ← (outage.mergeHashes product.id materialized.hashes).mapError .store
  let status ← (outage.completeStage product.id product.version .view).mapError .store
  return ⟨materialized, newHashes, status⟩

/-- Removes codes from the cache in order and counts those that were there. The first
failure ends the removal. -/
def evict (outage : Outage) : List String → Attempt Cache CacheError Nat
  | [] => return 0
  | code :: rest => do
    let removed ← outage.cacheDelete code
    let others ← evict outage rest
    return others + if removed then 1 else 0

/-- Drops the codes that a stored product no longer produces from its record and from the
cache. -/
def purgeRetired (coding : Coding) (outage : Outage) (id : Int64) :
    Attempt Backend ViewError PurgeReport := do
  match ← Backend.onStore ((outage.getProduct id).mapError .store) with
  | none => throw (.productNotFound id)
  | some product =>
    let current ← (Attempt.ofExcept (product.materialize coding)).mapError .integrity
    let retired ← Backend.onStore ((outage.replaceHashes id current.hashes).mapError .store)
    let evicted ← Backend.onCache ((evict outage retired.keys).mapError .cache)
    return ⟨retired.size, evicted⟩

end Syndication
