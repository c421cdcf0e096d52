import Syndication.Pipeline

/-!
# Resolving codes

A code resolves to a text exactly when it is well-formed, the cache can be read and the cache
holds the text under it. Counting the resolution does not change its result.
-/

namespace Syndication

open Attempt

/-- A code resolves to what the cache holds for it. -/
theorem resolvePlu_ok_iff {outage : Outage} {code text : String} {cache : Cache} :
    ((resolvePlu outage code).runOn cache).1 = .ok text ↔
      isWellFormedCode code = true ∧ outage.cache (.get code) = none ∧
        cache.get? code = some text := by
  unfold resolvePlu
  split
  case isFalse malformed => simp [malformed]
  case isTrue wellFormed =>
    rw [Outage.cacheGet, Outage.onCache]
    cases outage.cache (.get code) with
    | some reason => exact ⟨nofun, nofun⟩
    | none =>
      have read : (Except.ok (cache.get? code)).mapError ResolveError.cache =
          .ok (cache.get? code) := rfl
      rw [runOn_bind, runOn_mapError, runOn_ofRun, read]
      cases cache.get? code with
      | none => simp
      | some found => simp [wellFormed]

/-- A well-formed code is not refused as malformed. It may be unknown, or the cache out of reach. -/
theorem resolvePlu_ne_invalidCode {outage : Outage} {code : String} {cache : Cache}
    (wellFormed : isWellFormedCode code = true) :
    ((resolvePlu outage code).runOn cache).1 ≠ .error .invalidCode := by
  rw [resolvePlu, if_pos wellFormed, Outage.cacheGet, Outage.onCache]
  cases outage.cache (.get code) with
  | some reason => exact nofun
  | none =>
    have read : (Except.ok (cache.get? code)).mapError ResolveError.cache =
        .ok (cache.get? code) := rfl
    rw [runOn_bind, runOn_mapError, runOn_ofRun, read]
    cases cache.get? code <;> exact nofun

/-- The pipeline's resolution has the result of the look-up. -/
theorem Pipeline.result_resolve {γ : Type} {outage : Outage} {code : String} {world : World γ} :
    ((Pipeline.resolve outage code).runOn world).1 =
      ((resolvePlu outage code).runOn world.cache).1 := by
  rw [resolve, runOn_bind, runOn_settle, World.onCache, runOn_focus]
  rfl

end Syndication
