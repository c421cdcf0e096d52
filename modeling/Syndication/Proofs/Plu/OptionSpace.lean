import Mathlib.Data.List.Nodup
import Syndication.Proofs.Plu.Emission
import Syndication.Proofs.Run.Operations

/-!
# The option space of a product

What a product sells is listed here by its own rule: the walk through groups, options, items and
variants, and for each variant the texts that the type of its option asks for. Against this list the
expansion is exact. Its details are the options that are the first to contribute some text, in
walking order, each with the texts that it is the first to contribute and their codes.

No code belongs to two details, so putting their maps together loses nothing: the map of a view has
a code for each text of the product and no text twice.
-/

namespace Syndication

open Expansion

namespace Product

/-- The canonical text of a unit that a variant of the product has. -/
def textOf (product : Product) (variant : Variant) (schedule round : String) : String :=
  (⟨product.id, product.version, variant.id, schedule, round⟩ : Plu).text

/-- The texts of a variant: one for each departure and each time slot of it, one for each
departure, or a single one. -/
def spaceOfVariant (product : Product) (option : ProductOption) (item : OptionItem)
    (variant : Variant) : List String :=
  match option.type with
  | .round => item.schedules.flatMap fun schedule =>
      item.rounds.map fun round => product.textOf variant schedule round
  | .schedule => item.schedules.map fun schedule => product.textOf variant schedule ""
  | .list => [product.textOf variant "" ""]

/-- The texts of an option, in walking order and with every repetition. -/
def spaceOfOption (product : Product) (option : ProductOption) : List String :=
  option.items.flatMap fun item => item.variants.flatMap fun variant =>
    product.spaceOfVariant option item variant

/-- The texts that a product sells, in walking order and with every repetition. -/
def optionSpace (product : Product) : List String :=
  product.groups.flatMap fun group => group.options.flatMap fun option =>
    product.spaceOfOption option

/-- The options of a walk, each with the texts that it is the first to contribute when some texts
were seen before. -/
def contributions (product : Product) : List String → List ProductOption →
    List (ProductOption × List String)
  | _, [] => []
  | seen, option :: rest =>
    (option, news seen (product.spaceOfOption option)) ::
      product.contributions (seen ++ product.spaceOfOption option) rest

variable {product : Product} {coding : Coding}

/-- The texts of a variant are those of its units. -/
theorem spaceOfVariant_eq (option : ProductOption) (item : OptionItem) (variant : Variant) :
    product.spaceOfVariant option item variant =
      (product.variantUnits option.type item variant).map Plu.text := by
  unfold spaceOfVariant variantUnits OptionItem.unitSegments textOf
  cases option.type <;> simp [List.map_flatMap, Function.comp_def]

/-- The texts of an option are those of its units. -/
theorem spaceOfOption_eq (option : ProductOption) :
    product.spaceOfOption option = (product.optionUnits option).map Plu.text := by
  simp only [spaceOfOption, optionUnits, List.map_flatMap, spaceOfVariant_eq]

/-- The texts of a product are those of its units. -/
theorem optionSpace_eq : product.optionSpace = product.texts := by
  simp only [optionSpace, texts, units, options, List.flatMap_assoc, List.map_flatMap,
    spaceOfOption_eq]

end Product

/-! ## The details -/

/-- What a detail tells about its option: the identifier, the type and the texts. -/
def PluDetail.listing (detail : PluDetail) : Int64 × OptionType × List String :=
  (detail.optionId, detail.type, detail.plus)

namespace Expansion

variable {product : Product} {coding : Coding} {seen other : List String}

/-- What is news depends on which texts were seen, not on their order. -/
theorem news_congr (same : ∀ text, text ∈ seen ↔ text ∈ other) (texts : List String) :
    news seen texts = news other texts := by
  unfold news List.removeAll
  congr 1
  apply List.filter_congr
  intro text _
  simp [same]

/-- So do the contributions of options. -/
theorem contributions_congr (same : ∀ text, text ∈ seen ↔ text ∈ other)
    (options : List ProductOption) :
    product.contributions seen options = product.contributions other options := by
  induction options generalizing seen other with
  | nil => rfl
  | cons option rest inductionHypothesis =>
    rw [Product.contributions, Product.contributions, news_congr same]
    congr 1
    apply inductionHypothesis
    simp [same]

/-- The details of a walk are the options that contribute something, in walking order.

Induct over the options. What has been emitted before an option are the texts of the options before
it, repetitions left out, which makes no difference to its contribution. -/
theorem visitOptions_listing {options : List ProductOption} {emitted : Emitted}
    {details : List PluDetail} (holds : emitted.Holds coding seen)
    (ran : visitOptions coding product options emitted = .ok details) :
    details.map PluDetail.listing =
      ((product.contributions seen options).filter fun contribution => !contribution.2.isEmpty).map
        fun contribution => (contribution.1.id, contribution.1.type, contribution.2) := by
  induction options generalizing seen emitted details with
  | nil =>
    cases ran
    rfl
  | cons option rest inductionHypothesis =>
    simp only [visitOptions, except_bind_ok_iff, Except.ok.injEq] at ran
    obtain ⟨step, visited, others, visitedRest, rfl⟩ := ran
    have emittedAll := (visitItems_ok_iff.mp visited).2
    obtain ⟨reached, contributed⟩ :=
      emitAll_holds holds Contribution.holds_empty (by simp) emittedAll
    have own : step.2.plus = news seen (product.spaceOfOption option) := by
      rw [contributed.listed, product.spaceOfOption_eq]
      rfl
    have alike : ∀ text, text ∈ seen ++ news seen (product.spaceOfOption option) ↔
        text ∈ seen ++ product.spaceOfOption option := by
      intro text
      simp only [List.mem_append, mem_news]
      tauto
    have later := inductionHypothesis reached visitedRest
    rw [← product.spaceOfOption_eq option, contributions_congr alike] at later
    rw [List.map_append, later, Product.contributions, List.filter_cons, ← own, detail?]
    split
    case isTrue empty => simp [empty]
    case isFalse contributing => simp [contributing, PluDetail.listing]

end Expansion

namespace Coding.Assigns

variable {coding : Coding} {texts : List String} {hashes : PluHashes}

/-- No text has two codes. -/
theorem code_unique (assigns : coding.Assigns texts hashes) {first second text : String}
    (firstOwns : hashes[first]? = some text) (secondOwns : hashes[second]? = some text) :
    first = second := by
  have firstCode := ((assigns first text).mp firstOwns).2
  have secondCode := ((assigns second text).mp secondOwns).2
  exact Except.ok.inj (firstCode.symm.trans secondCode)

/-- A map has as many entries as there are texts, if these are different and have codes. -/
theorem size_eq (assigns : coding.Assigns texts hashes) (distinct : texts.Nodup)
    (coded : ∀ text ∈ texts, ∃ code, coding.code text = .ok code) :
    hashes.size = texts.length := by
  have entry : ∀ code text, (code, text) ∈ hashes.toList ↔
      text ∈ texts ∧ coding.code text = .ok code := by
    intro code text
    rw [Std.ExtTreeMap.mem_toList_iff_getElem?_eq_some, assigns code text]
  have entries : hashes.toList.Nodup := by
    apply Std.ExtTreeMap.distinct_keys_toList.imp
    rintro first second different rfl
    exact different Std.ReflCmp.compare_self
  have once : (hashes.toList.map Prod.snd).Nodup := by
    apply entries.map_on
    rintro ⟨first, text⟩ firstIn ⟨second, _⟩ secondIn rfl
    have firstOwns := Std.ExtTreeMap.mem_toList_iff_getElem?_eq_some.mp firstIn
    have secondOwns := Std.ExtTreeMap.mem_toList_iff_getElem?_eq_some.mp secondIn
    rw [assigns.code_unique firstOwns secondOwns]
  have members : ∀ text, text ∈ hashes.toList.map Prod.snd ↔ text ∈ texts := by
    intro text
    rw [List.mem_map]
    constructor
    · rintro ⟨⟨code, _⟩, member, rfl⟩
      exact ((entry code _).mp member).1
    · intro member
      obtain ⟨code, textCode⟩ := coded text member
      exact ⟨(code, text), (entry code text).mpr ⟨member, textCode⟩, rfl⟩
  have same := (List.perm_ext_iff_of_nodup once distinct).mpr members
  rw [← Std.ExtTreeMap.length_toList, ← same.length_eq, List.length_map]

end Coding.Assigns

/-! ## The whole expansion -/

/-- Some details present the option space of a product: they list its texts, each once and at its
first place, by the options that are the first to contribute them, and the codes of the texts. -/
structure Product.PresentedBy (coding : Coding) (product : Product) (details : List PluDetail) :
    Prop where
  /-- Together the details list the option space without repetitions. -/
  listed : details.flatMap PluDetail.plus = product.optionSpace.eraseDups
  /-- They are the options that contribute some text, in walking order. -/
  options : details.map PluDetail.listing =
    ((product.contributions [] product.options).filter fun contribution =>
      !contribution.2.isEmpty).map
        fun contribution => (contribution.1.id, contribution.1.type, contribution.2)
  /-- A detail has exactly the codes of its texts. -/
  coded : ∀ detail ∈ details, ∀ code text : String, detail.hashes[code]? = some text ↔
    text ∈ detail.plus ∧ coding.code text = .ok code
  /-- It has as many codes as texts. -/
  sized : ∀ detail ∈ details, detail.hashes.size = detail.plus.length
  /-- No code belongs to two details. -/
  apart : details.Pairwise fun first second => ∀ code, code ∈ first.hashes → code ∉ second.hashes

/-- The map of a view puts the maps of its details together without losing an entry, and has no
text twice. -/
structure ProductView.Gathers (view : ProductView) : Prop where
  entries : ∀ code text : String, view.hashes[code]? = some text ↔
    ∃ detail ∈ view.details, detail.hashes[code]? = some text
  size : view.hashes.size = (view.details.flatMap PluDetail.plus).length
  injective : ∀ first second text : String, view.hashes[first]? = some text →
    view.hashes[second]? = some text → first = second

namespace Product

variable {product : Product} {coding : Coding} {details : List PluDetail}

/-- The texts of an expansion are different. -/
theorem nodup_of_expand (expanded : product.expand coding = .ok details) :
    (details.flatMap PluDetail.plus).Nodup := by
  rw [(product.expand_ok expanded).2.1]
  exact nodup_eraseDups product.texts

/-- An expansion presents the option space. -/
theorem presentedBy_of_expand (expanded : product.expand coding = .ok details) :
    product.PresentedBy coding details := by
  obtain ⟨codable, listed, assigned⟩ := product.expand_ok expanded
  have distinct := List.nodup_flatMap.mp (nodup_of_expand expanded)
  have known : ∀ detail ∈ details, ∀ text ∈ detail.plus, text ∈ product.texts := by
    intro detail detailIn text textIn
    rw [← List.mem_eraseDups, ← listed]
    exact List.mem_flatMap.mpr ⟨detail, detailIn, textIn⟩
  constructor
  case listed => rw [listed, optionSpace_eq]
  case options => exact visitOptions_listing Emitted.holds_empty expanded
  case coded => exact assigned
  case sized =>
    intro detail detailIn
    apply (assigned detail detailIn).size_eq (distinct.1 detail detailIn)
    exact fun text textIn => codable.coded text (known detail detailIn text textIn)
  case apart =>
    apply distinct.2.imp_of_mem
    intro first second firstIn secondIn disjoint code firstHas secondHas
    obtain ⟨text, textOwns⟩ := Option.isSome_iff_exists.mp
      (Std.ExtTreeMap.isSome_getElem?_iff_mem.mpr firstHas)
    obtain ⟨other, otherOwns⟩ := Option.isSome_iff_exists.mp
      (Std.ExtTreeMap.isSome_getElem?_iff_mem.mpr secondHas)
    obtain ⟨textIn, textCode⟩ := (assigned first firstIn code text).mp textOwns
    obtain ⟨otherIn, otherCode⟩ := (assigned second secondIn code other).mp otherOwns
    have same := codable.injective text (known first firstIn text textIn) other
      (known second secondIn other otherIn) code textCode otherCode
    exact disjoint textIn (same ▸ otherIn)

/-- The view of a product gathers its details. -/
theorem gathers_of_materialize {materialized : Materialized}
    (formed : product.materialize coding = .ok materialized) : materialized.view.Gathers := by
  obtain ⟨expanded, _, assigned⟩ := product.materialize_ok formed
  obtain ⟨_, _, _, same⟩ := product.view_of_materialize formed
  obtain ⟨codable, listed, detailAssigned⟩ := product.expand_ok expanded
  rw [same] at assigned
  have members : ∀ text, text ∈ product.texts ↔
      ∃ detail ∈ materialized.view.details, text ∈ detail.plus := by
    intro text
    rw [← List.mem_eraseDups, ← listed, List.mem_flatMap]
  constructor
  case entries =>
    intro code text
    rw [assigned code text, members]
    constructor
    · rintro ⟨⟨detail, detailIn, textIn⟩, textCode⟩
      exact ⟨detail, detailIn, (detailAssigned detail detailIn code text).mpr ⟨textIn, textCode⟩⟩
    · rintro ⟨detail, detailIn, owns⟩
      obtain ⟨textIn, textCode⟩ := (detailAssigned detail detailIn code text).mp owns
      exact ⟨⟨detail, detailIn, textIn⟩, textCode⟩
  case size =>
    have once : coding.Assigns (materialized.view.details.flatMap PluDetail.plus)
        materialized.view.hashes := by
      intro code text
      rw [assigned code text, listed, List.mem_eraseDups]
    apply once.size_eq (nodup_of_expand expanded)
    intro text textIn
    exact codable.coded text (List.mem_eraseDups.mp (listed ▸ textIn))
  case injective => exact fun first second text => assigned.code_unique

/-- An expansion that succeeds computes exactly the option space: its details are the options that
are the first to contribute some text, each with these texts and their codes, and the product can
be materialized, with a view that has these details and gathers their codes. -/
theorem expansion_presents_option_space (expanded : product.expand coding = .ok details) :
    product.PresentedBy coding details ∧
      ∃ materialized, product.materialize coding = .ok materialized ∧
        materialized.view.details = details ∧ materialized.view.Gathers := by
  obtain ⟨materialized, formed⟩ := materialize_ok_iff.mpr (product.expand_ok expanded).1
  have same : materialized.view.details = details := by
    have again := (product.materialize_ok formed).1
    exact Except.ok.inj (again.symm.trans expanded)
  exact ⟨presentedBy_of_expand expanded, materialized, formed, same, gathers_of_materialize formed⟩

end Product

/-! ## A tour whose options overlap -/

namespace Tour

/-- An option of the tour with departures for one kind of ticket. -/
def departing (id : Int64) (name : String) (schedules : List String) : ProductOption :=
  ⟨id, name, .schedule, [⟨3, "Day", [⟨4, "Adult", true, true, []⟩], schedules, []⟩]⟩

/-- The tour with three options, of which the second shares a departure with the first and the
third has nothing of its own. -/
def overlapping : Product :=
  { product with groups := [⟨1, "Tickets", [departing 2 "Entry" ["mon", "tue"],
      departing 5 "Late" ["tue", "wed", "wed"], departing 6 "Again" ["mon"]]⟩] }

/-- Its expansion has two details, and the second has the one text that is new. -/
theorem overlapping_presented : ∃ details, overlapping.expand plainCoding = .ok details ∧
    details.flatMap PluDetail.plus = ["7|1|4|mon|", "7|1|4|tue|", "7|1|4|wed|"] ∧
    details.map PluDetail.listing =
      [(2, .schedule, ["7|1|4|mon|", "7|1|4|tue|"]), (5, .schedule, ["7|1|4|wed|"])] ∧
    ∃ materialized, overlapping.materialize plainCoding = .ok materialized ∧
      materialized.view.details = details ∧ materialized.view.hashes.size = 3 := by
  have succeeded : (overlapping.expand plainCoding).isOk = true := by decide +kernel
  cases expanded : overlapping.expand plainCoding with
  | error cause =>
    rw [expanded] at succeeded
    cases succeeded
  | ok details =>
    obtain ⟨presented, materialized, formed, same, gathers⟩ :=
      Product.expansion_presents_option_space expanded
    have listed : details.flatMap PluDetail.plus =
        ["7|1|4|mon|", "7|1|4|tue|", "7|1|4|wed|"] :=
      presented.listed.trans (by decide +kernel)
    refine ⟨details, rfl, listed, presented.options.trans (by decide +kernel), materialized, formed,
      same, ?_⟩
    rw [gathers.size, same, listed]
    rfl

end Tour

end Syndication
