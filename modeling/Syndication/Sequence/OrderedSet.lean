/-!
# Ordered sets

An ordered set keeps its entries in the order in which they came in, and each of them once: an
entry that is there already is not added again.
-/

namespace Syndication

/-- Entries in the order in which they came in, none of them twice. -/
structure OrderedSet (α : Type) where
  entries : List α
  distinct : entries.Nodup

namespace OrderedSet

variable {α : Type}

/-- No entries. -/
def empty : OrderedSet α := ⟨[], .nil⟩

/-- A new entry can be put behind entries without repetitions. -/
theorem nodup_concat {entries : List α} {entry : α} (distinct : entries.Nodup)
    (fresh : entry ∉ entries) : (entries ++ [entry]).Nodup := by
  refine List.nodup_append.mpr ⟨distinct, by simp, ?_⟩
  rintro other known last isEntry rfl
  exact fresh (List.mem_singleton.mp isEntry ▸ known)

variable [DecidableEq α]

/-- The set with an entry, which comes last unless it is there already. -/
def insert (set : OrderedSet α) (entry : α) : OrderedSet α :=
  if known : entry ∈ set.entries then set
  else ⟨set.entries ++ [entry], nodup_concat set.distinct known⟩

/-- The set with several entries, added one after the other. -/
def extend (set : OrderedSet α) (added : List α) : OrderedSet α := added.foldl insert set

/-- The entries of a list, each at its first place. -/
def ofList (entries : List α) : OrderedSet α := empty.extend entries

end OrderedSet

end Syndication
