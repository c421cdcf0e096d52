import Syndication.View.Publish

/-!
# Evicting codes

An eviction removes codes one after the other and stops at the first that cannot be removed.
`Outage.removable` lists the codes before that one: they are gone afterwards, every other entry
is as it was, and the eviction succeeds exactly when all codes are listed.
-/

namespace Syndication

open Attempt

/-- The codes before the first one whose removal fails, in order. -/
def Outage.removable (outage : Outage) (codes : List String) : List String :=
  codes.takeWhile fun code => (outage.cache (.delete code)).isNone

namespace Outage

variable {outage : Outage} {code : String} {rest : List String}

/-- A code that cannot be removed ends the list. -/
theorem removable_cons_of_fails {reason : String}
    (fails : outage.cache (.delete code) = some reason) :
    outage.removable (code :: rest) = [] := by
  simp [removable, fails]

/-- A code that can be removed does not. -/
theorem removable_cons_of_works (works : outage.cache (.delete code) = .none) :
    outage.removable (code :: rest) = code :: outage.removable rest := by
  simp [removable, works]

/-- Without outage all codes can be removed. -/
theorem removable_none (codes : List String) : Outage.none.removable codes = codes := by
  induction codes with
  | nil => rfl
  | cons code rest inductionHypothesis =>
    rw [removable_cons_of_works rfl, inductionHypothesis]

/-- Codes that can be removed are among the given ones. -/
theorem mem_of_mem_removable {codes : List String} (member : code ∈ outage.removable codes) :
    code ∈ codes :=
  (List.takeWhile_sublist _).mem member

end Outage

/-- A cache from which codes were removed in order. -/
def Cache.without (cache : Cache) (codes : List String) : Cache :=
  codes.foldl (fun cache code => (cache.delete code).2) cache

namespace Cache

/-- A removal takes away the value of its code and no other. -/
theorem get?_delete (cache : Cache) (code other : String) :
    (cache.delete code).2.get? other = if code = other then none else cache.get? other := by
  simp [delete, get?, Std.ExtTreeMap.getElem?_erase]

/-- A removal has no say in whether there is an entry of another code. -/
theorem delete_delete_of_ne {cache : Cache} {code other : String} (different : code ≠ other) :
    ((cache.delete code).2.delete other).1 = (cache.delete other).1 := by
  have apart : (compare code other != .eq) = true :=
    bne_iff_ne.mpr fun same => different (Std.compare_eq_iff_eq.mp same)
  simp only [delete, contains, Std.ExtTreeMap.contains_erase, apart, Bool.true_and]

/-- Several removals take away the values of their codes and no others. -/
theorem get?_without (cache : Cache) (codes : List String) (other : String) :
    (cache.without codes).get? other = if other ∈ codes then none else cache.get? other := by
  induction codes generalizing cache with
  | nil => simp [without]
  | cons code rest inductionHypothesis =>
    show ((cache.delete code).2.without rest).get? other = _
    rw [inductionHypothesis, get?_delete]
    by_cases here : code = other
    · simp [here]
    · simp [here, Ne.symm here]

/-- Removals let no entry expire. -/
theorem live_without {cache : Cache} (live : ∀ code, cache.expired.contains code = false)
    (codes : List String) (other : String) :
    (cache.without codes).expired.contains other = false := by
  induction codes generalizing cache with
  | nil => exact live other
  | cons code rest inductionHypothesis =>
    apply inductionHypothesis
    intro key
    simp only [delete, Std.ExtTreeMap.contains_erase, live key, Bool.and_false]

end Cache

/-- An eviction of different codes removes those that are removable, whatever its result. It
succeeds when these are all codes, and counts the entries that there were.

Induct over the codes. A removal that fails ends the eviction with nothing removed by it; one
that works leaves the entries of the other codes to be counted. -/
theorem runOn_evict (outage : Outage) {codes : List String} (distinct : codes.Nodup)
    (cache : Cache) :
    ((evict outage codes).runOn cache).2 = cache.without (outage.removable codes) ∧
      ∀ count, ((evict outage codes).runOn cache).1 = .ok count ↔
        outage.removable codes = codes ∧
          count = codes.countP fun code => (cache.delete code).1 := by
  induction codes generalizing cache with
  | nil =>
    refine ⟨rfl, fun count => ⟨fun ended => ?_, ?_⟩⟩
    · cases ended
      exact ⟨rfl, rfl⟩
    · rintro ⟨_, rfl⟩
      rfl
  | cons code rest inductionHypothesis =>
    rw [List.nodup_cons] at distinct
    cases works : outage.cache (.delete code) with
    | some reason =>
      have failed : outage.cacheDelete code = throw (.unavailable reason) := by
        rw [Outage.cacheDelete, Outage.onCache, works]
      rw [Outage.removable_cons_of_fails works, evict, failed]
      refine ⟨rfl, fun count => iff_of_false nofun ?_⟩
      rintro ⟨impossible, _⟩
      cases impossible
    | none =>
      have removed : outage.cacheDelete code =
          ofRun fun cache => (.ok (cache.delete code).1, (cache.delete code).2) := by
        rw [Outage.cacheDelete, Outage.onCache, works]
      obtain ⟨later, counted⟩ := inductionHypothesis distinct.2 (cache.delete code).2
      have others : rest.countP (fun other => ((cache.delete code).2.delete other).1) =
          rest.countP fun other => (cache.delete other).1 := by
        refine List.countP_congr fun other member => ?_
        have different : code ≠ other := by
          rintro rfl
          exact distinct.1 member
        rw [Cache.delete_delete_of_ne different]
      rw [others] at counted
      rw [Outage.removable_cons_of_works works, evict, removed, runOn_bind, runOn_ofRun]
      simp only
      rw [runOn_bind, List.countP_cons]
      cases ran : (evict outage rest).runOn (cache.delete code).2 with
      | mk result after =>
        rw [ran] at later counted
        refine ⟨?_, fun count => ?_⟩
        · cases result <;> exact later
        · cases result with
          | ok found =>
            obtain ⟨all, rfl⟩ := (counted found).mp rfl
            rw [all, eq_self, true_and]
            exact ⟨fun same => (Except.ok.inj same).symm, fun same => congrArg Except.ok same.symm⟩
          | error cause =>
            refine iff_of_false nofun ?_
            rintro ⟨all, _⟩
            cases (counted _).mpr ⟨(List.cons.inj all).2, rfl⟩

end Syndication
