import Mathlib.Data.List.Nodup

/-!
# First places

Where a list may repeat an entry and only the first of its places counts, what is kept has the
entries of the list in the order of these places. That says it all: `firstPlaces_iff` shows that
erasing the later places is the only way to keep a list so.
-/

namespace Syndication

variable {α β : Type} [BEq α] [LawfulBEq α] [BEq β] [LawfulBEq β] {entries kept : List α}

/-- A list whose repetitions are erased has none. -/
theorem nodup_eraseDups {α : Type} [BEq α] [LawfulBEq α] (entries : List α) :
    entries.eraseDups.Nodup := by
  match entries with
  | [] => exact List.nodup_nil
  | entry :: rest =>
    rw [List.eraseDups_cons, List.nodup_cons]
    exact ⟨by simp, nodup_eraseDups (rest.filter fun other => !other == entry)⟩
termination_by entries.length
decreasing_by exact Nat.lt_succ_of_le (List.length_filter_le _ _)

/-- What is kept of a list has the same entries, and they stand in the order of their first places
in the list. -/
structure FirstPlaces {α : Type} [BEq α] (entries kept : List α) : Prop where
  complete : ∀ entry, entry ∈ kept ↔ entry ∈ entries
  ordered : kept.Pairwise fun earlier later => entries.idxOf earlier < entries.idxOf later

/-- Of two entries behind another one, that one comes first that comes first among the rest. -/
theorem idxOf_cons_lt_iff {first second entry : α} (firstBehind : entry ≠ first)
    (secondBehind : entry ≠ second) (rest : List α) :
    (entry :: rest).idxOf first < (entry :: rest).idxOf second ↔
      rest.idxOf first < rest.idxOf second := by
  rw [List.idxOf_cons_ne rest firstBehind, List.idxOf_cons_ne rest secondBehind,
    Nat.succ_lt_succ_iff]

/-- Passing over other entries does not change which of two comes first. -/
theorem idxOf_filter_lt_iff (keeps : α → Bool) {first second : α} (firstKept : keeps first = true)
    (secondKept : keeps second = true) (entries : List α) :
    (entries.filter keeps).idxOf first < (entries.filter keeps).idxOf second ↔
      entries.idxOf first < entries.idxOf second := by
  induction entries with
  | nil => rfl
  | cons entry rest inductionHypothesis =>
    by_cases keepsEntry : keeps entry = true
    · rw [List.filter_cons_of_pos keepsEntry]
      by_cases isFirst : entry = first
      · by_cases same : first = second <;> simp [isFirst, same]
      by_cases isSecond : entry = second
      · simp [isSecond]
      rw [idxOf_cons_lt_iff isFirst isSecond, idxOf_cons_lt_iff isFirst isSecond,
        inductionHypothesis]
    · have isOther : ∀ other, keeps other = true → entry ≠ other := by
        rintro _ keepsOther rfl
        exact keepsEntry keepsOther
      rw [List.filter_cons_of_neg keepsEntry, inductionHypothesis,
        idxOf_cons_lt_iff (isOther first firstKept) (isOther second secondKept)]

/-- Erasing repetitions keeps the first places.

Induct over the length. The first entry comes before all others, and these stand in the rest in the
order in which they stand in what is left of it without the first entry. -/
theorem firstPlaces_eraseDups {α : Type} [BEq α] [LawfulBEq α] (entries : List α) :
    FirstPlaces entries entries.eraseDups := by
  refine ⟨fun _ => List.mem_eraseDups, ?_⟩
  match entries with
  | [] => exact List.Pairwise.nil
  | entry :: rest =>
    have others := (firstPlaces_eraseDups (rest.filter fun other => !other == entry)).ordered
    have behind : ∀ other ∈ (rest.filter fun other => !other == entry).eraseDups,
        (!other == entry) = true ∧ entry ≠ other := by
      intro other member
      have different := (List.mem_filter.mp (List.mem_eraseDups.mp member)).2
      refine ⟨different, ?_⟩
      rintro rfl
      simp at different
    rw [List.eraseDups_cons, List.pairwise_cons]
    constructor
    · intro later member
      rw [List.idxOf_cons_self, List.idxOf_cons_ne _ (behind later member).2]
      exact Nat.succ_pos _
    · apply others.imp_of_mem
      intro earlier later earlierIn laterIn before
      rw [idxOf_cons_lt_iff (behind earlier earlierIn).2 (behind later laterIn).2]
      exact (idxOf_filter_lt_iff (fun other => !other == entry)
        (behind earlier earlierIn).1 (behind later laterIn).1 rest).mp before
termination_by entries.length
decreasing_by exact Nat.lt_succ_of_le (List.length_filter_le _ _)

namespace FirstPlaces

omit [LawfulBEq α] in
/-- Nothing is kept twice, since no first place comes before itself. -/
theorem nodup (places : FirstPlaces entries kept) : kept.Nodup := by
  apply places.ordered.imp
  rintro earlier _ before rfl
  exact Nat.lt_irrefl _ before

/-- Calling the entries by names that tell them apart keeps the order. -/
theorem map {name : α → β} (injective : Function.Injective name)
    (places : FirstPlaces entries kept) : FirstPlaces (entries.map name) (kept.map name) where
  complete entry := by simp only [List.mem_map, places.complete]
  ordered := by
    have position : ∀ entry, (entries.map name).idxOf (name entry) = entries.idxOf entry := by
      intro entry
      have alike : ∀ other, (name other == name entry) = (other == entry) := by
        intro other
        rw [Bool.eq_iff_iff, beq_iff_eq, beq_iff_eq, injective.eq_iff]
      simp only [List.idxOf, List.findIdx_map, Function.comp_def, alike]
    rw [List.pairwise_map]
    simpa only [position] using places.ordered

end FirstPlaces

/-- Erasing repetitions is the only way to keep the first places. -/
theorem firstPlaces_iff : FirstPlaces entries kept ↔ kept = entries.eraseDups := by
  constructor
  · intro places
    have erased := firstPlaces_eraseDups entries
    have same : kept.Perm entries.eraseDups := by
      rw [List.perm_ext_iff_of_nodup places.nodup erased.nodup]
      exact fun entry => (places.complete entry).trans (erased.complete entry).symm
    apply same.eq_of_pairwise _ places.ordered erased.ordered
    intro first second _ _ before after
    exact absurd before (Nat.lt_asymm after)
  · rintro rfl
    exact firstPlaces_eraseDups entries

end Syndication
