import Mathlib.Data.Set.Card
import Syndication.Proofs.Cache.Copying

/-!
# Contested codes

Flattening goes through the records once. The first text met for a code owns it, and a code is only
taken out at the end if another text was met. So while a code is being contested its owner may be
any of the texts, and which one depends on the order of the records.

The result does not: it is determined by which texts the records have under which codes. A code that
all records with it agree on keeps its text, the others are left out and counted once each, whoever
and however many had them.
-/

namespace Syndication

/-- Some record has a text under a code. -/
def Claimed (records : List (Int64 × PluHashes)) (code text : String) : Prop :=
  ∃ record ∈ records, record.2[code]? = some text

/-- The codes under which two records have different texts. -/
def contestedCodes (records : List (Int64 × PluHashes)) : Set String :=
  {code | ∃ first ∈ records, ∃ second ∈ records, ∃ text other : String,
    first.2[code]? = some text ∧ second.2[code]? = some other ∧ text ≠ other}

variable {records others : List (Int64 × PluHashes)} {code text : String}

/-- A code has a text after flattening when the text is claimed and no other one is. -/
theorem flattenRecords_iff_claimed : (flattenRecords records).1[code]? = some text ↔
    Claimed records code text ∧ ∀ other, Claimed records code other → other = text := by
  rw [flattenRecords_iff]
  refine and_congr_right fun _ => ⟨?_, ?_⟩
  · rintro only other ⟨record, member, found⟩
    exact only record member other found
  · intro only record member other found
    exact only other ⟨record, member, found⟩

/-- A code is contested when two different texts are claimed. -/
theorem mem_contestedCodes_iff : code ∈ contestedCodes records ↔ ∃ first second : String,
    Claimed records code first ∧ Claimed records code second ∧ first ≠ second := by
  constructor
  · rintro ⟨left, leftIn, right, rightIn, first, second, atLeft, atRight, different⟩
    exact ⟨first, second, ⟨left, leftIn, atLeft⟩, ⟨right, rightIn, atRight⟩, different⟩
  · rintro ⟨first, second, ⟨left, leftIn, atLeft⟩, ⟨right, rightIn, atRight⟩, different⟩
    exact ⟨left, leftIn, right, rightIn, first, second, atLeft, atRight, different⟩

/-- The contested codes are finitely many, and flattening counts them. -/
theorem contestedCodes_counted (records : List (Int64 × PluHashes)) :
    (contestedCodes records).Finite ∧
      (flattenRecords records).2 = (contestedCodes records).ncard := by
  obtain ⟨contested, nodup, members, counted⟩ := flattenRecords_contested records
  have listed : contestedCodes records = ↑contested.toFinset := by
    ext code
    rw [Finset.mem_coe, List.mem_toFinset, members, mem_contestedCodes_iff]
    rfl
  constructor
  · rw [listed]
    exact Finset.finite_toSet _
  · rw [counted, listed, Set.ncard_coe_finset, List.toFinset_card_of_nodup nodup]

/-- Records with the same claims are flattened to the same. -/
theorem flattenRecords_congr
    (same : ∀ code text, Claimed others code text ↔ Claimed records code text) :
    flattenRecords others = flattenRecords records := by
  have agreed : (flattenRecords others).1 = (flattenRecords records).1 := by
    apply Std.ExtTreeMap.ext_getElem?
    intro code
    apply Option.ext
    intro text
    simp only [flattenRecords_iff_claimed, same]
  have contested : contestedCodes others = contestedCodes records := by
    ext code
    simp only [mem_contestedCodes_iff, same]
  apply Prod.ext agreed
  rw [(contestedCodes_counted others).2, (contestedCodes_counted records).2, contested]

/-- The order of records is no matter for their claims. -/
theorem claimed_of_perm (same : others.Perm records) :
    Claimed others code text ↔ Claimed records code text := by
  simp only [Claimed, same.mem_iff]

/-- Flattening keeps exactly the uncontested codes. A code has a text when some record has the text
and none has another one, and the number is that of the codes under which two records have different
texts. Neither the order of the records nor how many of them have a code makes a difference. Loading
flattens what the store holds in this way. -/
theorem flattening_keeps_uncontested (records : List (Int64 × PluHashes)) :
    (∀ code text : String, (flattenRecords records).1[code]? = some text ↔
      (∃ record ∈ records, record.2[code]? = some text) ∧
        ∀ record ∈ records, ∀ other : String, record.2[code]? = some other → other = text) ∧
    (contestedCodes records).Finite ∧
    (flattenRecords records).2 = (contestedCodes records).ncard ∧
    (∀ others : List (Int64 × PluHashes), others.Perm records →
      flattenRecords others = flattenRecords records) ∧
    (∀ others : List (Int64 × PluHashes),
      (∀ code text, Claimed others code text ↔ Claimed records code text) →
        flattenRecords others = flattenRecords records) ∧
    ∀ (outage : Outage) (store : Store), outage.store .loadRecords = none →
      store.records.toList.Perm records →
        (loadHashes outage).runOn store = (.ok (flattenRecords records), store) := by
  obtain ⟨finite, counted⟩ := contestedCodes_counted records
  refine ⟨fun code text => flattenRecords_iff, finite, counted, fun others same => ?_,
    fun others same => flattenRecords_congr same, fun outage store inReach same => ?_⟩
  · exact flattenRecords_congr fun code text => claimed_of_perm same
  · have flattened : flattenRecords store.records.toList = flattenRecords records :=
      flattenRecords_congr fun code text => claimed_of_perm same
    rw [runOn_loadHashes, inReach, flattened]

namespace Tour

/-- Three records with the code `A`, the first two of which agree, and two with `B`, which agree. -/
def claimants : List (Int64 × PluHashes) :=
  [(7, Std.ExtTreeMap.ofList [("A", "adult"), ("B", "child")]),
    (8, Std.ExtTreeMap.ofList [("A", "adult"), ("C", "senior")]),
    (9, Std.ExtTreeMap.ofList [("A", "group"), ("B", "child")])]

/-- Loaded from last to first or the other way round, they leave `B` and `C` and contest `A`. -/
theorem claimants_flattened : ∃ hashes : PluHashes,
    (loadHashes Outage.none).runOn { Store.empty with records := .ofList claimants } =
        (.ok (hashes, 1), { Store.empty with records := .ofList claimants }) ∧
      flattenRecords claimants.reverse = (hashes, 1) ∧
      hashes["A"]? = none ∧ hashes["B"]? = some "child" ∧ hashes["C"]? = some "senior" := by
  have listed : (Std.ExtTreeMap.ofList claimants : Std.ExtTreeMap Int64 PluHashes).toList =
      claimants := by decide +kernel
  obtain ⟨_, _, _, _, _, loads⟩ := flattening_keeps_uncontested claimants.reverse
  have loaded := loads Outage.none { Store.empty with records := .ofList claimants } rfl
    (listed ▸ claimants.reverse_perm.symm)
  have counted : (flattenRecords claimants.reverse).2 = 1 := by decide +kernel
  refine ⟨(flattenRecords claimants.reverse).1, ?_, Prod.ext rfl counted, ?_⟩
  · rw [loaded]
    exact congrArg (fun flattened => (Except.ok flattened, _)) (Prod.ext rfl counted)
  · decide +kernel

end Tour

end Syndication
