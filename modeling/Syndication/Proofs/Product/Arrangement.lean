import Mathlib.Data.List.Forall2
import Syndication.Proofs.Stage.Repetition
import Syndication.Proofs.Store.Merging

/-!
# Arranging a product anew

The catalog lists groups, options, items, variants, departures and time slots in some order, and
may list one of them more than once. What is published for a product does not depend on this. The
walk over the variants, what each option contributes and the first error all change with the
arrangement, but the set of texts does not, and the expansion succeeds for the texts as a set. The
map of the published texts is determined by that set as well.

So a product that is only arranged anew can be published exactly when it could be before, with the
same map, and adds nothing to its record.
-/

namespace Syndication

open Attempt

/-- A list lists the entries of another one in a different way: in another order, some of them
again, or each of them arranged anew inside. -/
inductive Rearranged {α : Type} (inside : α → α → Prop) : List α → List α → Prop
  /-- The entries are arranged anew, each at its place. -/
  | entries {left right : List α} (related : List.Forall₂ inside left right) :
      Rearranged inside left right
  /-- The entries are listed in another order. -/
  | permuted {left right : List α} (permutation : left.Perm right) : Rearranged inside left right
  /-- An entry is listed once more. -/
  | repeated {entry : α} {left : List α} (member : entry ∈ left) :
      Rearranged inside left (entry :: left)
  /-- One change is followed by another. -/
  | followed {left middle right : List α} (first : Rearranged inside left middle)
      (second : Rearranged inside middle right) : Rearranged inside left right

/-- An item with its variants, departures and time slots arranged anew. -/
structure OptionItem.Rearranged (left right : OptionItem) : Prop where
  variants : Syndication.Rearranged Eq left.variants right.variants
  schedules : Syndication.Rearranged Eq left.schedules right.schedules
  rounds : Syndication.Rearranged Eq left.rounds right.rounds

/-- An option of the same type with its items arranged anew. -/
structure ProductOption.Rearranged (left right : ProductOption) : Prop where
  type : left.type = right.type
  items : Syndication.Rearranged OptionItem.Rearranged left.items right.items

/-- A group with its options arranged anew. -/
structure OptionGroup.Rearranged (left right : OptionGroup) : Prop where
  options : Syndication.Rearranged ProductOption.Rearranged left.options right.options

/-- A version of a product with its groups arranged anew. Names and the identifiers of groups,
options and items may change as well, since no text tells them. -/
structure Product.Rearranged (left right : Product) : Prop where
  id : left.id = right.id
  version : left.version = right.version
  groups : Syndication.Rearranged OptionGroup.Rearranged left.groups right.groups

/-! ## The same texts -/

section Members

variable {α β : Type} {inside : α → α → Prop} {left right : List α}

/-- What the entries of a list contribute to is the same for a list that is arranged anew, provided
that an entry arranged anew contributes the same.

Induct over the changes. -/
theorem Rearranged.mem_flatMap_iff (rearranged : Rearranged inside left right)
    (contributed : α → List β)
    (alike : ∀ entry other, inside entry other → ∀ member,
      member ∈ contributed entry ↔ member ∈ contributed other)
    (member : β) : member ∈ left.flatMap contributed ↔ member ∈ right.flatMap contributed := by
  induction rearranged with
  | entries related =>
    induction related with
    | nil => rfl
    | cons anew _ inductionHypothesis =>
      rw [List.flatMap_cons, List.flatMap_cons, List.mem_append, List.mem_append,
        alike _ _ anew member, inductionHypothesis]
  | permuted permutation => exact (permutation.flatMap_right contributed).mem_iff
  | @repeated entry left listed =>
    rw [List.flatMap_cons, List.mem_append]
    refine ⟨Or.inr, ?_⟩
    rintro (here | later)
    · exact List.mem_flatMap.mpr ⟨entry, listed, here⟩
    · exact later
  | followed _ _ first second => exact first.trans second

/-- With its entries left as they are, a list that is arranged anew has the same members. -/
theorem Rearranged.mem_iff (rearranged : Rearranged Eq left right) (member : α) :
    member ∈ left ↔ member ∈ right := by
  have same := rearranged.mem_flatMap_iff (fun entry => [entry])
    (by rintro entry _ rfl _; rfl) member
  rwa [List.flatMap_singleton', List.flatMap_singleton'] at same

end Members

/-- The departures and time slots of an item that is arranged anew are the same. -/
theorem OptionItem.Rearranged.mem_unitSegments {left right : OptionItem}
    (rearranged : left.Rearranged right) (type : OptionType) (segments : String × String) :
    segments ∈ left.unitSegments type ↔ segments ∈ right.unitSegments type := by
  cases type with
  | schedule => simp only [unitSegments, List.mem_map, rearranged.schedules.mem_iff]
  | round =>
    simp only [unitSegments, List.mem_flatMap, List.mem_map, rearranged.schedules.mem_iff,
      rearranged.rounds.mem_iff]
  | list => rfl

namespace Product

variable {product other : Product} {coding : Coding}

/-- So the units of its variants are the same. -/
theorem mem_itemUnits_of_rearranged (product : Product) (type : OptionType)
    {left right : OptionItem} (rearranged : left.Rearranged right) (unit : Plu) :
    unit ∈ left.variants.flatMap (product.variantUnits type left) ↔
      unit ∈ right.variants.flatMap (product.variantUnits type right) := by
  simp only [variantUnits, List.mem_flatMap, List.mem_map, rearranged.variants.mem_iff,
    rearranged.mem_unitSegments]

/-- And so are the units of an option whose items are arranged anew. -/
theorem mem_optionUnits_of_rearranged (product : Product) {left right : ProductOption}
    (rearranged : left.Rearranged right) (unit : Plu) :
    unit ∈ product.optionUnits left ↔ unit ∈ product.optionUnits right := by
  rw [optionUnits, optionUnits, ← rearranged.type, rearranged.items.mem_flatMap_iff _]
  exact fun _ _ => product.mem_itemUnits_of_rearranged left.type

/-- The units of a product go through its groups and their options. -/
theorem units_eq_flatMap_groups (product : Product) :
    product.units =
      product.groups.flatMap fun group => group.options.flatMap product.optionUnits := by
  rw [units, options, List.flatMap_assoc]

/-- The units of a version that is arranged anew are the same. -/
theorem Rearranged.mem_units (rearranged : product.Rearranged other) (unit : Plu) :
    unit ∈ product.units ↔ unit ∈ other.units := by
  have own : other.optionUnits = product.optionUnits := by
    unfold optionUnits variantUnits
    rw [rearranged.id, rearranged.version]
  rw [units_eq_flatMap_groups, units_eq_flatMap_groups, own]
  apply rearranged.groups.mem_flatMap_iff
  intro _ _ anew
  exact anew.options.mem_flatMap_iff _ fun _ _ => product.mem_optionUnits_of_rearranged

/-- And so are its texts. -/
theorem Rearranged.mem_texts (rearranged : product.Rearranged other) (text : String) :
    text ∈ product.texts ↔ text ∈ other.texts := by
  simp only [texts, List.mem_map, rearranged.mem_units]

/-- A product can be expanded if another one that can has all of its units. -/
theorem Codable.of_mem_units (codable : product.Codable coding)
    (known : ∀ unit ∈ other.units, unit ∈ product.units) : other.Codable coding := by
  have knownTexts : ∀ text ∈ other.texts, text ∈ product.texts := List.map_subset Plu.text known
  constructor
  · exact fun unit member => codable.wellFormed unit (known unit member)
  · exact fun text member => codable.coded text (knownTexts text member)
  · exact fun first firstIn second secondIn =>
      codable.injective first (knownTexts first firstIn) second (knownTexts second secondIn)

/-- Whether a version can be expanded does not depend on its arrangement. -/
theorem Rearranged.codable_iff (rearranged : product.Rearranged other) :
    product.Codable coding ↔ other.Codable coding := by
  constructor
  · exact fun codable => codable.of_mem_units fun unit => (rearranged.mem_units unit).mpr
  · exact fun codable => codable.of_mem_units fun unit => (rearranged.mem_units unit).mp

/-- The map of the published texts does not depend on the arrangement: it assigns the same texts
their codes. -/
theorem Rearranged.materialize_ok (rearranged : product.Rearranged other)
    {materialized : Materialized} (formed : product.materialize coding = .ok materialized) :
    ∃ anew, other.materialize coding = .ok anew ∧ anew.hashes = materialized.hashes := by
  have codable := rearranged.codable_iff.mp (materialize_ok_iff.mp ⟨materialized, formed⟩)
  obtain ⟨anew, formedAnew⟩ := materialize_ok_iff.mpr codable
  have assigned := (product.materialize_ok formed).2.2
  have assignedAnew := (other.materialize_ok formedAnew).2.2
  refine ⟨anew, formedAnew, Std.ExtTreeMap.ext_getElem? fun code => Option.ext fun text => ?_⟩
  rw [assignedAnew code text, assigned code text, rearranged.mem_texts]

end Product

/-! ## Publishing what is recorded -/

section Recorded

variable {coding : Coding} {product : Product} {materialized : Materialized} {store : Store}

/-- Adding entries that a record has leaves it as it is. -/
theorem PluHashes.union_of_recorded {record hashes : PluHashes}
    (recorded : ∀ code text : String, hashes[code]? = some text → record[code]? = some text) :
    record ∪ hashes = record := by
  apply Std.ExtTreeMap.ext_getElem?
  intro code
  rw [Std.ExtTreeMap.getElem?_union]
  cases given : hashes[code]? with
  | none => rfl
  | some text => rw [recorded code text given]; rfl

/-- Publishing a product adds nothing to the records of a store, whatever is out of reach: they
stay as they are, and no code is counted as new. -/
structure Store.Absorbs (coding : Coding) (product : Product) (store : Store) : Prop where
  kept : ∀ outage key,
    ((publish coding outage product).runOn store).2.record key = store.record key
  counted : ∀ outage published after,
    (publish coding outage product).runOn store = (.ok published, after) → published.newHashes = 0

/-- A product whose texts are on record is absorbed. -/
theorem Store.absorbs_of_recorded (formed : product.materialize coding = .ok materialized)
    (recorded : ∀ code text : String, materialized.hashes[code]? = some text →
      (store.record product.id)[code]? = some text) :
    store.Absorbs coding product := by
  have absorbed := PluHashes.union_of_recorded recorded
  constructor
  · intro outage key
    have published := records_publish coding outage product store
    rw [formed] at published
    split at published
    next same _ _ =>
      cases same
      rw [record, published, ← record, record_mergeHashes]
      split
      case isTrue own => rw [own, absorbed]
      case isFalse => rfl
    next => rw [record, record, published]
  · intro outage published after ran
    rw [publish_eq_flagging, formed] at ran
    obtain ⟨count, middle, _, wrote, rfl, _, _⟩ :=
      completed_of_flagging (runOn_mapError_ok_iff.mp ran)
    obtain ⟨_, _, merged⟩ := Outage.runOn_writeView_ok_iff.mp wrote
    have counted : (store.record product.id ∪ materialized.hashes).size -
        (store.record product.id).size = count := congrArg Prod.fst merged
    rw [absorbed, Nat.sub_self] at counted
    exact counted.symm

/-- The view of a stored product can be marked complete under every status. -/
theorem Store.exists_completeStage_view {stored : Product}
    (found : store.products[product.id]? = some stored) :
    ∃ reached, store.completeStage product.id stored.version .view = .ok reached := by
  have advances : ∃ status, stored.status.complete .view = .ok status := by
    cases stored.status <;> exact ⟨_, rfl⟩
  obtain ⟨status, advanced⟩ := advances
  simp only [completeStage, found, if_pos, advanced]
  exact ⟨_, rfl⟩

/-- A product that has come in can be published when it can be materialized and nothing is out of
reach. -/
theorem publish_of_ingested (formed : product.materialize coding = .ok materialized)
    (store : Store) : ∃ published after,
      (publish coding Outage.none product).runOn (store.upsertProduct product).2 =
        (.ok published, after) := by
  let written := ((store.upsertProduct product).2.upsertView materialized.view).mergeHashes
    product.id materialized.hashes
  have wrote : (Outage.none.writeView product materialized).runOn (store.upsertProduct product).2 =
      (.ok written.1, written.2) := Outage.runOn_writeView_ok_iff.mpr ⟨rfl, rfl, rfl⟩
  have stored : written.2.products[product.id]? =
      some { product with status := store.ingestedStatus product } :=
    Std.ExtTreeMap.getElem?_insert_self
  obtain ⟨reached, completed⟩ := Store.exists_completeStage_view stored
  refine ⟨⟨materialized, written.1, reached.1⟩, reached.2, ?_⟩
  rw [publish_eq_flagging, formed]
  apply runOn_mapError_ok_iff.mpr
  rw [Outage.flagging, runOn_bind, wrote]
  simp only [runOn_bind_pure, Outage.completeStage, Outage.runOn_onStore, completed]
  rfl

end Recorded

namespace Product

variable {product other : Product}

/-- What is published for a product does not depend on its arrangement. One that is arranged anew
can be expanded exactly when the product can, and publishes the same texts under the same codes.
Once the product is published, a store that has kept its record adds nothing to it for the product
arranged anew, and if that one comes in and nothing is out of reach, it is published without a new
code. -/
theorem publication_independent_of_arrangement (rearranged : product.Rearranged other)
    (coding : Coding) :
    ((∃ details, other.expand coding = .ok details) ↔
      ∃ details, product.expand coding = .ok details) ∧
    (∀ materialized, product.materialize coding = .ok materialized →
      ∃ anew, other.materialize coding = .ok anew ∧ anew.hashes = materialized.hashes) ∧
    ∀ (outage : Outage) (before after later : Store) (published : Published),
      (publish coding outage product).runOn before = (.ok published, after) →
      (∀ code text : String, (after.record product.id)[code]? = some text →
        (later.record product.id)[code]? = some text) →
      later.Absorbs coding other ∧
        ∃ again final,
          (publish coding Outage.none other).runOn (later.upsertProduct other).2 =
            (.ok again, final) ∧
          again.newHashes = 0 ∧ ∀ key, final.record key = later.record key := by
  refine ⟨?_, fun _ => rearranged.materialize_ok, ?_⟩
  · rw [expand_ok_iff, expand_ok_iff, rearranged.codable_iff]
  · intro outage before after later published ran kept
    have concluded := concluded_publish coding outage product before
    rw [ran] at concluded
    cases concluded with
    | reached _ _ _ _ _ written =>
      obtain ⟨anew, formedAnew, same⟩ := rearranged.materialize_ok written.formed
      have recorded : ∀ code text : String, anew.hashes[code]? = some text →
          (later.record other.id)[code]? = some text := by
        intro code text given
        rw [← rearranged.id]
        apply kept
        rw [written.merged, Std.ExtTreeMap.getElem?_union, ← same, given]
        rfl
      obtain ⟨again, final, ranAgain⟩ := publish_of_ingested formedAnew later
      have absorbs : (later.upsertProduct other).2.Absorbs coding other :=
        Store.absorbs_of_recorded formedAnew recorded
      refine ⟨Store.absorbs_of_recorded formedAnew recorded, again, final, ranAgain,
        absorbs.counted _ _ _ ranAgain, fun key => ?_⟩
      have keptAgain := absorbs.kept Outage.none key
      rw [ranAgain] at keptAgain
      exact keptAgain

end Product

/-! ## A tour with departures -/

namespace Tour

/-- A ticket of the tour. -/
def ticket (id : Int64) (name : String) : Variant := ⟨id, name, true, true, []⟩

/-- An item of the tour with departures and time slots. -/
def day : OptionItem :=
  ⟨3, "Day", [ticket 4 "Adult", ticket 5 "Child"], ["mon", "tue"], ["09:00", "14:00"]⟩

/-- The same item with the tickets in another order, and a departure and a time slot listed
twice. -/
def dayAnew : OptionItem :=
  ⟨3, "Day", [ticket 5 "Child", ticket 4 "Adult"], ["tue", "mon", "tue"],
    ["14:00", "09:00", "14:00"]⟩

/-- The tour with some items. -/
def withItems (items : List OptionItem) : Product :=
  { product with groups := [⟨1, "Tickets", [⟨2, "Entry", .round, items⟩]⟩] }

/-- The tour with departures and time slots. -/
def timed : Product := withItems [day]

/-- The same tour with its item arranged anew and listed twice. -/
def timedAnew : Product := withItems [dayAnew, dayAnew]

/-- It is the tour arranged anew. -/
theorem rearranged_timed : timed.Rearranged timedAnew := by
  have item : day.Rearranged dayAnew := by
    constructor
    · exact .permuted (.swap _ _ _)
    · exact .repeated (List.mem_cons_of_mem _ List.mem_cons_self)
    · exact .repeated (List.mem_cons_of_mem _ List.mem_cons_self)
  have items : Rearranged OptionItem.Rearranged [day] [dayAnew, dayAnew] :=
    .followed (.entries (.cons item .nil)) (.repeated List.mem_cons_self)
  exact ⟨rfl, rfl, .entries (.cons ⟨.entries (.cons ⟨rfl, items⟩ .nil)⟩ .nil)⟩

/-- The tour with departures has come in and is published. -/
def timedPublished : Store :=
  ((publish plainCoding Outage.none timed).runOn (Store.empty.upsertProduct timed).2).2

/-- Arranged anew it is a different entry, but comes in and is published without a new code. -/
theorem timed_published_anew : timedAnew ≠ timed ∧ timed.Rearranged timedAnew ∧
    (timedPublished.record 7).size = 8 ∧ ∃ again final,
      (publish plainCoding Outage.none timedAnew).runOn
        (timedPublished.upsertProduct timedAnew).2 = (.ok again, final) ∧
      again.newHashes = 0 ∧ ∀ key, final.record key = timedPublished.record key := by
  have size : (timedPublished.record 7).size = 8 := by decide +kernel
  have succeeded : ((publish plainCoding Outage.none timed).runOn
      (Store.empty.upsertProduct timed).2).1.isOk = true := by decide +kernel
  cases result : ((publish plainCoding Outage.none timed).runOn
      (Store.empty.upsertProduct timed).2).1 with
  | error cause =>
    rw [result] at succeeded
    cases succeeded
  | ok published =>
    have independent := Product.publication_independent_of_arrangement rearranged_timed plainCoding
    have republished := independent.2.2 Outage.none _ timedPublished timedPublished published
      (Prod.ext result rfl) fun _ _ recorded => recorded
    exact ⟨by decide, rearranged_timed, size, republished.2⟩

end Tour

end Syndication
