import Syndication.Cache.Reconcile

/-!
# Flattening the published texts

Reconciliation copies a code exactly when all products that publish it agree on its text.
The first text met becomes the owner of the code, and any other text met later contests it;
`CodeClaims.Hold` says what the two maps stand for after some entries.
-/

namespace Syndication

/-- Claims stand for the entries they were made by: every code met has one of its texts as its
owner, and the codes with a text that is not the owner are the contested ones. -/
structure CodeClaims.Hold (claims : CodeClaims) (entries : List (String × String)) : Prop where
  owned : ∀ code owner : String, claims.owners[code]? = some owner → (code, owner) ∈ entries
  claimed : ∀ code text : String, (code, text) ∈ entries → claims.owners[code]? ≠ none
  contested : ∀ code : String, claims.contested.contains code = true ↔
    ∃ owner text, claims.owners[code]? = some owner ∧ (code, text) ∈ entries ∧ text ≠ owner

namespace CodeClaims

variable {claims : CodeClaims} {entries : List (String × String)} {code text owner : String}

/-- Before any entry nothing is claimed. -/
theorem hold_empty : CodeClaims.empty.Hold [] := by
  constructor <;> simp [empty]

/-- The first text for a code becomes its owner. -/
theorem Hold.insert (hold : claims.Hold entries) (unowned : claims.owners[code]? = none) :
    Hold { claims with owners := claims.owners.insert code text } (entries ++ [(code, text)]) := by
  have fresh : ∀ other, (code, other) ∉ entries := fun other member =>
    hold.claimed code other member unowned
  constructor
  case owned =>
    intro other owner owns
    simp only [Std.ExtTreeMap.getElem?_insert, Std.compare_eq_iff_eq] at owns
    split at owns
    case isTrue same =>
      subst same
      cases owns
      exact List.mem_append_right entries List.mem_cons_self
    case isFalse => exact List.mem_append_left _ (hold.owned other owner owns)
  case claimed =>
    intro other owner member
    simp only [Std.ExtTreeMap.getElem?_insert, Std.compare_eq_iff_eq]
    split
    case isTrue => exact Option.some_ne_none text
    case isFalse different =>
      refine hold.claimed other owner ?_
      simpa [Ne.symm different] using member
  case contested =>
    intro other
    by_cases same : code = other
    · subst same
      have quiet : ¬claims.contested.contains code = true := by
        intro contested
        obtain ⟨owner, _, owns, _⟩ := (hold.contested code).mp contested
        rw [unowned] at owns
        cases owns
      simp [quiet, fresh]
    · have elsewhere : (claims.owners.insert code text)[other]? = claims.owners[other]? := by
        simp [Std.ExtTreeMap.getElem?_insert, same]
      rw [elsewhere]
      simpa [Ne.symm same] using hold.contested other

/-- A text that owns its code already changes nothing. -/
theorem Hold.again (hold : claims.Hold entries) (owned : claims.owners[code]? = some owner) :
    claims.Hold (entries ++ [(code, owner)]) := by
  have member := hold.owned code owner owned
  have same : ∀ entry, entry ∈ entries ++ [(code, owner)] ↔ entry ∈ entries := by
    intro entry
    simp only [List.mem_append, List.mem_singleton, or_iff_left_iff_imp]
    rintro rfl
    exact member
  constructor <;> simp only [same]
  · exact hold.owned
  · exact hold.claimed
  · exact hold.contested

/-- A second text for a code contests it. -/
theorem Hold.contest (hold : claims.Hold entries) (owned : claims.owners[code]? = some owner)
    (different : owner ≠ text) :
    Hold { claims with contested := claims.contested.insert code () }
      (entries ++ [(code, text)]) := by
  constructor
  case owned => exact fun other text owns => List.mem_append_left _ (hold.owned other text owns)
  case claimed =>
    intro other found member
    rcases List.mem_append.mp member with earlier | last
    · exact hold.claimed other found earlier
    · cases List.mem_singleton.mp last
      rw [owned]
      exact Option.some_ne_none owner
  case contested =>
    intro other
    by_cases same : code = other
    · subst same
      refine iff_of_true (by simp) ⟨owner, text, owned, ?_, Ne.symm different⟩
      exact List.mem_append_right entries List.mem_cons_self
    · simpa [Std.ExtTreeMap.contains_insert, same, Ne.symm same] using hold.contested other

/-- Claims that are added stand for one entry more. -/
theorem Hold.add (hold : claims.Hold entries) (entry : String × String) :
    (claims.add entry).Hold (entries ++ [entry]) := by
  unfold CodeClaims.add
  split
  case h_1 unowned => exact hold.insert unowned
  case h_2 owner owned =>
    split
    case isTrue same =>
      have repeated := hold.again owned
      rwa [same] at repeated
    case isFalse different => exact hold.contest owned different

/-- Claims that are added in turn stand for all entries. -/
theorem Hold.addAll (hold : claims.Hold entries) (added : List (String × String)) :
    (added.foldl CodeClaims.add claims).Hold (entries ++ added) := by
  induction added generalizing claims entries with
  | nil => simpa using hold
  | cons entry rest inductionHypothesis =>
    have grown := inductionHypothesis (hold.add entry)
    simpa only [List.foldl_cons, List.append_assoc, List.singleton_append] using grown

/-- A code is uncontested with a text when this is the only text met for it. -/
theorem Hold.uncontested_iff (hold : claims.Hold entries) :
    claims.uncontested[code]? = some text ↔
      (code, text) ∈ entries ∧ ∀ other, (code, other) ∈ entries → other = text := by
  have look : claims.uncontested[code]? = some text ↔
      claims.owners[code]? = some text ∧ ¬claims.contested.contains code = true := by
    rw [uncontested, Std.ExtTreeMap.getElem?_filter', Option.filter_eq_some_iff,
      Bool.not_eq_true', Bool.not_eq_true]
  rw [look]
  constructor
  · rintro ⟨owns, quiet⟩
    refine ⟨hold.owned code text owns, fun other member => ?_⟩
    refine Decidable.byContradiction fun different => ?_
    exact quiet ((hold.contested code).mpr ⟨text, other, owns, member, different⟩)
  · rintro ⟨member, only⟩
    cases owned : claims.owners[code]? with
    | none => exact absurd owned (hold.claimed code text member)
    | some owner =>
      have owner_eq : owner = text := only owner (hold.owned code owner owned)
      subst owner_eq
      refine ⟨rfl, fun contested => ?_⟩
      obtain ⟨first, other, owns, otherIn, different⟩ := (hold.contested code).mp contested
      cases owned.symm.trans owns
      exact different (only other otherIn)

/-- A code is contested when two different texts were met for it. The owner need not be one of
them, but it differs from one. -/
theorem Hold.contested_iff (hold : claims.Hold entries) :
    claims.contested.contains code = true ↔ ∃ first second : String, (code, first) ∈ entries ∧
      (code, second) ∈ entries ∧ first ≠ second := by
  rw [hold.contested]
  constructor
  · rintro ⟨owner, text, owns, member, different⟩
    exact ⟨owner, text, hold.owned code owner owns, member, different.symm⟩
  · rintro ⟨first, second, firstIn, secondIn, different⟩
    obtain ⟨owner, owns⟩ := Option.ne_none_iff_exists'.mp (hold.claimed code first firstIn)
    by_cases same : first = owner
    · exact ⟨owner, second, owns, secondIn, fun equal => different (same.trans equal.symm)⟩
    · exact ⟨owner, first, owns, firstIn, same⟩

end CodeClaims

section Records

variable {records : List (Int64 × PluHashes)} {code text : String}

/-- A text is entered under a code when some record has it there. -/
theorem mem_entries_iff : (code, text) ∈ records.flatMap (fun record => record.2.toList) ↔
    ∃ record ∈ records, record.2[code]? = some text := by
  simp [List.mem_flatMap]

/-- The claims that flattening makes stand for the entries of the records. -/
theorem hold_of_records (records : List (Int64 × PluHashes)) :
    ((records.flatMap fun record => record.2.toList).foldl CodeClaims.add .empty).Hold
      (records.flatMap fun record => record.2.toList) := by
  have held := CodeClaims.hold_empty.addAll (records.flatMap fun record => record.2.toList)
  rwa [List.nil_append] at held

/-- A code has a text after flattening when some product publishes the text under the code, and
no product publishes another text under it. -/
theorem flattenRecords_iff : (flattenRecords records).1[code]? = some text ↔
    (∃ record ∈ records, record.2[code]? = some text) ∧
      ∀ record ∈ records, ∀ other : String, record.2[code]? = some other → other = text := by
  show (CodeClaims.uncontested _)[code]? = some text ↔ _
  rw [(hold_of_records records).uncontested_iff, mem_entries_iff]
  refine and_congr_right fun _ => ⟨fun only record member other found => ?_, ?_⟩
  · exact only other (mem_entries_iff.mpr ⟨record, member, found⟩)
  · rintro only other member
    obtain ⟨record, recordIn, found⟩ := mem_entries_iff.mp member
    exact only record recordIn other found

/-- The number that flattening gives is that of the codes for which some records have different
texts. -/
theorem flattenRecords_contested (records : List (Int64 × PluHashes)) :
    ∃ contested : List String, contested.Nodup ∧
      (∀ code, code ∈ contested ↔ ∃ first second : String,
        (∃ record ∈ records, record.2[code]? = some first) ∧
          (∃ record ∈ records, record.2[code]? = some second) ∧ first ≠ second) ∧
        (flattenRecords records).2 = contested.length := by
  refine ⟨_, Std.ExtTreeMap.nodup_keys, fun code => ?_, Std.ExtTreeMap.length_keys.symm⟩
  rw [Std.ExtTreeMap.mem_keys, ← Std.ExtTreeMap.contains_iff_mem,
    (hold_of_records records).contested_iff]
  simp only [mem_entries_iff]

end Records

namespace Store

variable {store : Store} {code text : String}

/-- A text is in the record of a product when something was published for the product and has
the text. -/
theorem record_eq_some_iff {id : Int64} : (store.record id)[code]? = some text ↔
    ∃ hashes, (id, hashes) ∈ store.records.toList ∧ hashes[code]? = some text := by
  simp only [Std.ExtTreeMap.mem_toList_iff_getElem?_eq_some]
  rw [record, Std.ExtTreeMap.getD_eq_getD_getElem?]
  cases store.records[id]? <;> simp

/-- The records of a store agree on a text when one of them has it under its code, and none has
another one there. -/
theorem flattened_iff : (flattenRecords store.records.toList).1[code]? = some text ↔
    (∃ id, (store.record id)[code]? = some text) ∧
      ∀ (id : Int64) (other : String), (store.record id)[code]? = some other → other = text := by
  rw [flattenRecords_iff]
  simp only [record_eq_some_iff]
  constructor
  · rintro ⟨⟨record, member, assigned⟩, only⟩
    exact ⟨⟨record.1, record.2, member, assigned⟩,
      fun id other ⟨hashes, listed, found⟩ => only (id, hashes) listed other found⟩
  · rintro ⟨⟨id, hashes, member, assigned⟩, only⟩
    exact ⟨⟨(id, hashes), member, assigned⟩,
      fun record listed other found => only record.1 other ⟨record.2, listed, found⟩⟩

end Store

end Syndication
