import Mathlib.Control.Monad.Basic
import Mathlib.Logic.Relation
import Syndication.Proofs.Attempt.Success
import Syndication.Proofs.Run.Operations
import Syndication.Proofs.Stage.Agreement
import Syndication.View.Publish

/-!
# Adding to a record

Adding texts to the record of a product loses no code, and it takes over every text given. So an
entry whose code is given with another text is lost: `Store.Extends` says exactly which entries
stay, and what the count counts. Publishing adds the texts of a version to the record of its
product, and an entry survives any run of publications as long as no version has another text
under its code.
-/

namespace Syndication

open Attempt

/-- Every version of a product that has a text under a code has a given one. -/
def Coding.Confirms (coding : Coding) (versions : Product → Prop) (id : Int64)
    (code text : String) : Prop :=
  ∀ product materialized, versions product → product.id = id →
    product.materialize coding = .ok materialized →
      ∀ other, materialized.hashes[code]? = some other → other = text

namespace Store

/-- What adding texts to the record of a product does. -/
structure Extends (id : Int64) (hashes : PluHashes) (before : Store) (count : Nat)
    (after : Store) : Prop where
  /-- The codes are those of the record and those given. -/
  codes : ∀ code, code ∈ after.record id ↔ code ∈ before.record id ∨ code ∈ hashes
  given : ∀ code text : String, hashes[code]? = some text → (after.record id)[code]? = some text
  /-- An entry stays exactly if its code is not given with another text. -/
  kept : ∀ code text : String, (before.record id)[code]? = some text →
    ((after.record id)[code]? = some text ↔ ∀ other, hashes[code]? = some other → other = text)
  elsewhere : ∀ key, key ≠ id → after.records[key]? = before.records[key]?
  /-- What is counted are the codes given that the record did not have. -/
  counted : count = (hashes.keys.filter fun code => code ∉ before.record id).length

/-- The size of a union is the size of the one map and the number of keys that only the other
has. -/
theorem size_union (left right : PluHashes) :
    (left ∪ right).size = left.size + (right.keys.filter fun code => code ∉ left).length := by
  rw [← Std.ExtTreeMap.length_keys, ← Std.ExtTreeMap.length_keys (t := left), ← List.length_append]
  refine List.Perm.length_eq ((List.perm_ext_iff_of_nodup Std.ExtTreeMap.nodup_keys ?_).mpr ?_)
  · refine List.nodup_append.mpr ⟨Std.ExtTreeMap.nodup_keys, ?_, ?_⟩
    · exact Std.ExtTreeMap.nodup_keys.sublist List.filter_sublist
    · rintro code inLeft _ inRest rfl
      have fresh := (List.mem_filter.mp inRest).2
      exact of_decide_eq_true fresh (Std.ExtTreeMap.mem_keys.mp inLeft)
  · intro code
    by_cases inLeft : code ∈ left <;> simp [inLeft]

/-- Adding texts to a record does this. -/
theorem extends_mergeHashes (store : Store) (id : Int64) (hashes : PluHashes) :
    store.Extends id hashes (store.mergeHashes id hashes).1 (store.mergeHashes id hashes).2 where
  codes code := by
    rw [record_mergeHashes, if_pos rfl, Std.ExtTreeMap.mem_union_iff]
  given code text assigned := by
    rw [record_mergeHashes, if_pos rfl, Std.ExtTreeMap.getElem?_union, assigned]
    rfl
  kept code text recorded := by
    rw [record_mergeHashes, if_pos rfl, Std.ExtTreeMap.getElem?_union, recorded]
    cases hashes[code]? <;> simp
  elsewhere key different := by
    simp [mergeHashes, Std.ExtTreeMap.getElem?_insert, Ne.symm different]
  counted := by
    show (store.record id ∪ hashes).size - (store.record id).size = _
    rw [size_union, Nat.add_sub_cancel_left]

/-! ## Publications -/

variable {coding : Coding} {outage : Outage} {store before after : Store} {id : Int64}
  {code text : String}

/-- Marking a stage complete leaves the records alone, whether it succeeds or not. -/
theorem records_completeStage (outage : Outage) (id : Int64) (version : Int32) (stage : Stage)
    (store : Store) :
    ((outage.completeStage id version stage).runOn store).2.records = store.records := by
  rw [Outage.completeStage, Outage.runOn_onStore]
  cases outage.store (.completeStage id stage) with
  | some reason => rfl
  | none =>
    cases completed : store.completeStage id version stage with
    | error cause => rfl
    | ok reached =>
      obtain ⟨_, _, _, _, stored⟩ := completeStage_ok completed
      simp only [stored]

/-- A publication adds the texts of the product to its record, once it can be expanded and its view
and its texts can be written. Otherwise it leaves the records alone. -/
theorem records_publish (coding : Coding) (outage : Outage) (product : Product) (store : Store) :
    ((publish coding outage product).runOn store).2.records =
      match product.materialize coding, outage.store (.upsertView product.id),
          outage.store (.mergeHashes product.id) with
      | .ok materialized, none, none =>
        (store.mergeHashes product.id materialized.hashes).2.records
      | _, _, _ => store.records := by
  rw [publish, runOn_bind, runOn_mapError, runOn_ofExcept]
  cases formed : product.materialize coding with
  | error cause => rfl
  | ok materialized =>
    have owner : materialized.view.productId = product.id := (product.materialize_ok formed).2.1
    simp only [Except.mapError]
    rw [runOn_bind, runOn_mapError, Outage.upsertView, Outage.runOn_onStore, owner]
    cases outage.store (.upsertView product.id) with
    | some reason => rfl
    | none =>
      simp only [Except.mapError]
      rw [runOn_bind, runOn_mapError, Outage.mergeHashes, Outage.runOn_onStore]
      cases outage.store (.mergeHashes product.id) with
      | some reason => rfl
      | none =>
        simp only [Except.mapError]
        rw [runOn_bind, runOn_mapError]
        have kept := records_completeStage outage product.id product.version .view
          ((store.upsertView materialized.view).mergeHashes product.id materialized.hashes).2
        generalize (outage.completeStage product.id product.version .view).runOn _ = reached
          at kept ⊢
        obtain ⟨_ | _, _⟩ := reached <;> exact kept

/-- A step of a run without purges: some version is published under some outage, or something
happens that leaves the records alone. -/
inductive Publishes (coding : Coding) (versions : Product → Prop) (before : Store) : Store → Prop
  | publish (product : Product) (outage : Outage) (version : versions product) :
      Publishes coding versions before ((publish coding outage product).runOn before).2
  | aside (after : Store) (same : after.records = before.records) :
      Publishes coding versions before after

variable {versions : Product → Prop}

/-- A step leaves the record of a product alone, or adds the texts of a version to it. -/
theorem Publishes.record_eq (step : before.Publishes coding versions after) (id : Int64) :
    after.record id = before.record id ∨ ∃ product materialized, versions product ∧
      product.id = id ∧ product.materialize coding = .ok materialized ∧
        after.record id = before.record id ∪ materialized.hashes := by
  have still {later : Store} (same : later.records = before.records) :
      later.record id = before.record id := by rw [record, record, same]
  cases step with
  | aside _ same => exact Or.inl (still same)
  | publish product outage version =>
    have published := records_publish coding outage product before
    split at published
    next materialized formed _ _ =>
      rw [record, published, ← record, record_mergeHashes]
      by_cases own : id = product.id
      · exact Or.inr ⟨product, materialized, version, own.symm, formed, by rw [if_pos own, own]⟩
      · exact Or.inl (if_neg own)
    next => exact Or.inl (still published)

/-- Runs of publications lose no code. -/
theorem mem_record_of_publishes
    (run : Relation.ReflTransGen (Publishes coding versions) before after)
    (recorded : code ∈ before.record id) : code ∈ after.record id := by
  induction run with
  | refl => exact recorded
  | tail _ step inductionHypothesis =>
    rcases step.record_eq id with same | ⟨_, _, _, _, _, added⟩
    · exact same ▸ inductionHypothesis
    · rw [added, Std.ExtTreeMap.mem_union_iff]
      exact Or.inl inductionHypothesis

/-- Runs of publications lose no entry that the versions confirm. -/
theorem getElem?_record_of_publishes (confirmed : coding.Confirms versions id code text)
    (run : Relation.ReflTransGen (Publishes coding versions) before after)
    (recorded : (before.record id)[code]? = some text) : (after.record id)[code]? = some text := by
  induction run with
  | refl => exact recorded
  | tail _ step inductionHypothesis =>
    rcases step.record_eq id with same | ⟨product, materialized, version, own, formed, added⟩
    · exact same ▸ inductionHypothesis
    · rw [added, Std.ExtTreeMap.getElem?_union, inductionHypothesis]
      cases given : materialized.hashes[code]? with
      | none => rfl
      | some other => rw [confirmed product materialized version own formed other given]; rfl

/-- What merges and runs of publications do to a record, exactly. A merge does what `Extends` says.
In runs of publications no code is lost, and an entry survives all of them if and only if the
versions of its product confirm it. -/
theorem merges_and_publications_keep_iff (coding : Coding) :
    (∀ (store : Store) (id : Int64) (hashes : PluHashes),
      store.Extends id hashes (store.mergeHashes id hashes).1 (store.mergeHashes id hashes).2) ∧
    ∀ (versions : Product → Prop) (id : Int64) (code : String),
      (∀ before after : Store, Relation.ReflTransGen (Publishes coding versions) before after →
        code ∈ before.record id → code ∈ after.record id) ∧
      ∀ text : String,
        (∀ before after : Store, Relation.ReflTransGen (Publishes coding versions) before after →
          (before.record id)[code]? = some text → (after.record id)[code]? = some text) ↔
        coding.Confirms versions id code text := by
  refine ⟨extends_mergeHashes, fun versions id code => ⟨fun _ _ => mem_record_of_publishes, ?_⟩⟩
  refine fun text => ⟨fun survives product materialized version own formed other given => ?_, ?_⟩
  · -- A single publication replaces the text in a store that has the entry.
    subst own
    let store := (empty.mergeHashes product.id ((∅ : PluHashes).insert code text)).2
    have recorded : (store.record product.id)[code]? = some text := by
      rw [record_mergeHashes, if_pos rfl, Std.ExtTreeMap.getElem?_union,
        Std.ExtTreeMap.getElem?_insert_self]
      rfl
    have published := survives store _ (.single (.publish product Outage.none version)) recorded
    have records : ((publish coding Outage.none product).runOn store).2.records =
        (store.mergeHashes product.id materialized.hashes).2.records := by
      rw [records_publish, formed]
      rfl
    rw [record, records, ← record, record_mergeHashes, if_pos rfl,
      Std.ExtTreeMap.getElem?_union, given] at published
    exact Option.some.inj published
  · exact fun confirmed _ _ run => getElem?_record_of_publishes confirmed run

end Store

/-! ## Two versions with one code -/

namespace Tour

/-- The texts that a product materializes with, by code. -/
def texts (coding : Coding) (product : Product) : PluHashes :=
  ((product.materialize coding).toOption.map Materialized.hashes).getD ∅

/-- The first version has come in and is published. -/
def firstPublished (coding : Coding) : Store :=
  ((publish coding Outage.none product).runOn (ingested coding).store).2

/-- The third version has come in since and is published too. -/
def thirdPublished (coding : Coding) : Store :=
  ((publish coding Outage.none (edition 3)).runOn
    ((firstPublished coding).upsertProduct (edition 3)).2).2

/-- With digests of one symbol the first and the third version of the tour share a code. Adding the
texts of the third to a record with those of the first loses an entry, and so does publishing the
one after the other. -/
theorem text_lost_to_later_version :
    (¬ ∀ (store : Store) (id : Int64) (hashes : PluHashes) (code text : String),
      (store.record id)[code]? = some text →
        ((store.mergeHashes id hashes).2.record id)[code]? = some text) ∧
    ¬ ∀ (before after : Store) (code text : String),
      Relation.ReflTransGen (Store.Publishes ⟨digestCode, 1⟩ editions) before after →
        (before.record 7)[code]? = some text → (after.record 7)[code]? = some text := by
  have recorded : ((firstPublished ⟨digestCode, 1⟩).record 7)["H"]? = some "7|1|4||" := by
    decide +kernel
  have different : some "7|3|4||" ≠ some "7|1|4||" := by decide
  refine ⟨fun additive => ?_, fun lasting => ?_⟩
  · have merged : (((firstPublished ⟨digestCode, 1⟩).mergeHashes 7
        (texts ⟨digestCode, 1⟩ (edition 3))).2.record 7)["H"]? = some "7|3|4||" := by
      decide +kernel
    exact different (merged.symm.trans (additive _ 7 _ "H" "7|1|4||" recorded))
  · have published : ((thirdPublished ⟨digestCode, 1⟩).record 7)["H"]? = some "7|3|4||" := by
      decide +kernel
    have comesIn : Store.Publishes ⟨digestCode, 1⟩ editions (firstPublished ⟨digestCode, 1⟩)
        ((firstPublished ⟨digestCode, 1⟩).upsertProduct (edition 3)).2 := .aside _ rfl
    have run := Relation.ReflTransGen.tail (.single comesIn)
      (.publish (edition 3) Outage.none (⟨3, rfl⟩ : editions (edition 3)))
    exact different (published.symm.trans (lasting _ _ "H" "7|1|4||" run recorded))

end Tour

end Syndication
