import Mathlib.Data.List.Induction
import Syndication.Proofs.Sequence.FirstPlaces
import Syndication.Sequence.OrderedSet

/-!
# Adding to an ordered set

What is added to an ordered set goes behind what it holds, without what it holds already. So a set
that is filled from a list holds the first places of the list, and filling it from two lists one
after the other puts the new entries of the second behind those of the first.
-/

namespace Syndication.OrderedSet

variable {α : Type} [DecidableEq α]

/-- A known entry is not added again. -/
theorem insert_of_mem {set : OrderedSet α} {entry : α} (known : entry ∈ set.entries) :
    set.insert entry = set := dif_pos known

/-- A new entry comes last. -/
theorem entries_insert_of_not_mem {set : OrderedSet α} {entry : α}
    (fresh : entry ∉ set.entries) : (set.insert entry).entries = set.entries ++ [entry] := by
  rw [insert, dif_neg fresh]

/-- Adding two lists one after the other is adding them joined. -/
theorem extend_append (set : OrderedSet α) (earlier later : List α) :
    set.extend (earlier ++ later) = (set.extend earlier).extend later := List.foldl_append

/-- Adding several lists one after the other is adding them joined. -/
theorem extend_flatMap {β : Type} (set : OrderedSet α) (sources : List β) (added : β → List α) :
    set.extend (sources.flatMap added) =
      sources.foldl (fun found source => found.extend (added source)) set := List.foldl_flatMap

/-- The last entry of a list is added last. -/
theorem extend_concat (set : OrderedSet α) (earlier : List α) (last : α) :
    set.extend (earlier ++ [last]) = (set.extend earlier).insert last :=
  extend_append set earlier [last]

/-- A set filled from a list holds the list without its repetitions.

Induct over the list from its end. The last entry is kept exactly when it is not among the earlier
ones. -/
theorem entries_ofList (entries : List α) : (ofList entries).entries = entries.eraseDups := by
  induction entries using List.reverseRecOn with
  | nil => rfl
  | append_singleton earlier last inductionHypothesis =>
    rw [ofList, extend_concat, ← ofList, List.eraseDups_append, ← inductionHypothesis]
    by_cases known : last ∈ earlier
    · have held : last ∈ (ofList earlier).entries := by
        rw [inductionHypothesis, List.mem_eraseDups]
        exact known
      rw [insert_of_mem held]
      simp [List.removeAll, known]
    · have fresh : last ∉ (ofList earlier).entries := by
        rw [inductionHypothesis, List.mem_eraseDups]
        exact known
      rw [entries_insert_of_not_mem fresh]
      simp [List.removeAll, known, List.eraseDups_cons]

/-- A set filled from a list holds its first places. -/
theorem firstPlaces_ofList (entries : List α) : FirstPlaces entries (ofList entries).entries :=
  firstPlaces_iff.mpr (entries_ofList entries)

/-- What a list adds to a set are the first places of the list that are not in the set.

Induct over the list from its end, for the set that its earlier entries have been added to. The last
entry is new exactly when it is neither in the set nor among the earlier ones. -/
theorem entries_extend (set : OrderedSet α) (added : List α) :
    (set.extend added).entries =
      set.entries ++ (ofList added).entries.filter fun entry => entry ∉ set.entries := by
  induction added using List.reverseRecOn with
  | nil => exact (List.append_nil _).symm
  | append_singleton earlier last inductionHypothesis =>
    rw [extend_concat, ofList, extend_concat, ← ofList]
    by_cases listed : last ∈ (ofList earlier).entries
    · have held : last ∈ (set.extend earlier).entries := by
        rw [inductionHypothesis]
        by_cases inSet : last ∈ set.entries <;> simp [inSet, listed]
      rw [insert_of_mem held, insert_of_mem listed, inductionHypothesis]
    rw [entries_insert_of_not_mem listed, List.filter_append]
    by_cases inSet : last ∈ set.entries
    · have held : last ∈ (set.extend earlier).entries := by
        rw [inductionHypothesis]
        exact List.mem_append_left _ inSet
      rw [insert_of_mem held, inductionHypothesis]
      simp [inSet]
    · have fresh : last ∉ (set.extend earlier).entries := by
        rw [inductionHypothesis]
        simp [inSet, listed]
      rw [entries_insert_of_not_mem fresh, inductionHypothesis]
      simp [inSet]

end Syndication.OrderedSet
