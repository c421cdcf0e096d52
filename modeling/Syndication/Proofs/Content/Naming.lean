import Syndication.Proofs.Content.Listing
import Syndication.Proofs.Plu.OptionSpace

/-!
# The names of units

A unit is produced by the variant that is the first to emit its text, and it is described by the
option whose detail lists the text. Its name, however, is looked up by the identifier of the variant
among all variants of the product, and the last of those with the identifier has the say. So a unit
has the name of its own variant exactly where that variant and the last one with its identifier have
the same name.
-/

namespace Syndication

open Expansion

/-! ## Emitters -/

/-- The variants of an option, where they stand in a product. -/
def ProductOption.variantsIn (group : OptionGroup) (option : ProductOption) : List PlacedVariant :=
  option.items.flatMap fun item =>
    item.variants.map fun variant => ⟨group, option, item, variant⟩

namespace Product

/-- The texts that a variant emits where it stands. -/
def textsOf (product : Product) (placed : PlacedVariant) : List String :=
  product.spaceOfVariant placed.option placed.item placed.variant

/-- True for the variants that have a text. -/
def emits (product : Product) (text : String) (placed : PlacedVariant) : Bool :=
  (product.textsOf placed).contains text

/-- The variant that emits a text: the first of the walk that has it. -/
def emitter? (product : Product) (text : String) : Option PlacedVariant :=
  product.variants.find? (product.emits text)

/-- A variant is the last of the walk with an identifier. -/
def IsLast (product : Product) (id : Int64) (placed : PlacedVariant) : Prop :=
  ∃ earlier later, product.variants = earlier ++ placed :: later ∧ placed.variant.id = id ∧
    ∀ other ∈ later, other.variant.id ≠ id

variable {product : Product} {coding : Coding} {text : String} {emitter placed : PlacedVariant}

/-- The options of a product with their groups. -/
def placedOptions (product : Product) : List (OptionGroup × ProductOption) :=
  product.groups.flatMap fun group => group.options.map fun option => (group, option)

/-- The walk visits the variants option by option. -/
theorem variants_eq_flatMap : product.variants =
    product.placedOptions.flatMap fun place => place.2.variantsIn place.1 := by
  simp only [variants, placedOptions, ProductOption.variantsIn, List.flatMap_assoc,
    List.flatMap_map]

/-- The options without their groups. -/
theorem map_placedOptions : product.placedOptions.map Prod.snd = product.options := by
  simp only [placedOptions, options, List.map_flatMap, List.map_map, Function.comp_def,
    List.map_id']

/-- The texts of an option are those of its variants. -/
theorem mem_spaceOfOption_iff (group : OptionGroup) {option : ProductOption} :
    text ∈ product.spaceOfOption option ↔
      ∃ placed ∈ option.variantsIn group, product.emits text placed = true := by
  simp only [spaceOfOption, emits, textsOf, ProductOption.variantsIn, List.mem_flatMap,
    List.mem_map, List.contains_iff_mem]
  constructor
  · rintro ⟨item, itemIn, variant, variantIn, member⟩
    exact ⟨_, ⟨item, itemIn, variant, variantIn, rfl⟩, member⟩
  · rintro ⟨_, ⟨item, itemIn, variant, variantIn, rfl⟩, member⟩
    exact ⟨item, itemIn, variant, variantIn, member⟩

/-- Variants stand in their option. -/
theorem option_of_mem_variantsIn {group : OptionGroup} {option : ProductOption}
    (member : placed ∈ option.variantsIn group) : placed.option = option := by
  simp only [ProductOption.variantsIn, List.mem_flatMap, List.mem_map] at member
  obtain ⟨_, _, _, _, rfl⟩ := member
  rfl

/-- A text that an option contributes is emitted by one of its variants.

Induct over the options. A text that an option has is no news to the options after it. -/
theorem emitter_of_contributes {places : List (OptionGroup × ProductOption)}
    {seen texts : List String} {option : ProductOption}
    (contributes : (option, texts) ∈ product.contributions seen (places.map Prod.snd))
    (member : text ∈ texts) :
    text ∉ seen ∧ ∃ emitter,
      (places.flatMap fun place => place.2.variantsIn place.1).find? (product.emits text) =
        some emitter ∧ emitter.option = option := by
  induction places generalizing seen with
  | nil => exact absurd contributes List.not_mem_nil
  | cons place rest inductionHypothesis =>
    rw [List.map_cons, contributions, List.mem_cons] at contributes
    rw [List.flatMap_cons, List.find?_append]
    rcases contributes with here | later
    · obtain ⟨rfl, rfl⟩ := Prod.mk.inj here
      obtain ⟨own, fresh⟩ := mem_news.mp member
      obtain ⟨placed, placedIn, emits⟩ := (mem_spaceOfOption_iff place.1).mp own
      obtain ⟨emitter, found⟩ := Option.isSome_iff_exists.mp
        (List.find?_isSome.mpr ⟨placed, placedIn, emits⟩)
      refine ⟨fresh, emitter, ?_, option_of_mem_variantsIn (List.mem_of_find?_eq_some found)⟩
      rw [found, Option.some_or]
    · obtain ⟨unseen, emitter, found, same⟩ := inductionHypothesis later
      rw [List.mem_append, not_or] at unseen
      have others : (place.2.variantsIn place.1).find? (product.emits text) = none := by
        refine List.find?_eq_none.mpr fun placed placedIn emits => unseen.2 ?_
        exact (mem_spaceOfOption_iff place.1).mpr ⟨placed, placedIn, emits⟩
      refine ⟨unseen.1, emitter, ?_, same⟩
      rw [others, Option.none_or, found]

/-- The emitter of a text stands in the option whose detail lists the text. -/
theorem emitter_of_detail {details : List PluDetail} {detail : PluDetail}
    (expanded : product.expand coding = .ok details) (detailIn : detail ∈ details)
    (listed : text ∈ detail.plus) :
    ∃ emitter, product.emitter? text = some emitter ∧ detail.optionId = emitter.option.id ∧
      detail.type = emitter.option.type := by
  have listing := List.mem_map_of_mem (f := PluDetail.listing) detailIn
  rw [(presentedBy_of_expand expanded).options, ← map_placedOptions] at listing
  obtain ⟨⟨option, texts⟩, contributes, same⟩ := List.mem_map.mp listing
  obtain ⟨sameId, sameType, sameTexts⟩ : option.id = detail.optionId ∧ option.type = detail.type ∧
      texts = detail.plus := by
    simpa [PluDetail.listing] using same
  rw [← sameTexts] at listed
  obtain ⟨-, emitter, found, rfl⟩ :=
    emitter_of_contributes (List.mem_of_mem_filter contributes) listed
  exact ⟨emitter, by rw [emitter?, variants_eq_flatMap, found], sameId.symm, sameType.symm⟩

/-- What a variant emits are the texts of units of the product with the identifier of the
variant. -/
theorem unit_of_emitter (found : product.emitter? text = some emitter) :
    ∃ plu ∈ product.units, plu.text = text ∧ plu.variantId = emitter.variant.id := by
  have emits := List.find?_some found
  rw [Product.emits, List.contains_iff_mem, textsOf, spaceOfVariant_eq, List.mem_map] at emits
  obtain ⟨plu, own, rfl⟩ := emits
  refine ⟨plu, ?_, rfl, ?_⟩
  · have member := List.mem_of_find?_eq_some found
    simp only [variants, List.mem_flatMap, List.mem_map] at member
    obtain ⟨group, groupIn, option, optionIn, item, itemIn, variant, variantIn, rfl⟩ := member
    simp only [units, options, optionUnits, List.mem_flatMap]
    exact ⟨option, ⟨group, groupIn, optionIn⟩, item, itemIn, variant, variantIn, own⟩
  · obtain ⟨segments, -, rfl⟩ := List.mem_map.mp own
    rfl

/-! ## Names -/

/-- Looking from the end of the walk, the last variant with an identifier is found. -/
theorem find?_reverse_variants_iff {id : Int64} :
    (product.variants.reverse.find? fun placed => placed.variant.id == id) = some placed ↔
      product.IsLast id placed := by
  rw [List.find?_eq_some_iff_append]
  constructor
  · rintro ⟨same, later, earlier, walk, others⟩
    refine ⟨earlier.reverse, later.reverse, ?_, eq_of_beq same, ?_⟩
    · rw [← List.reverse_reverse product.variants, walk]
      simp
    · intro other member
      simpa using others other (List.mem_reverse.mp member)
  · rintro ⟨earlier, later, walk, same, others⟩
    refine ⟨beq_iff_eq.mpr same, later.reverse, earlier.reverse, ?_, ?_⟩
    · rw [walk]
      simp
    · intro other member
      simpa using others other (List.mem_reverse.mp member)

/-- The name for an identifier is that of the last variant with it. -/
theorem variantName_of_isLast {id : Int64} (last : product.IsLast id placed) :
    product.variantName id = placed.variant.name := by
  rw [variantName, find?_reverse_variants_iff.mpr last]

/-- Some variant is the last with the identifier of a variant. -/
theorem exists_isLast (member : placed ∈ product.variants) :
    ∃ last, product.IsLast placed.variant.id last := by
  have present : (product.variants.reverse.find?
      fun other => other.variant.id == placed.variant.id).isSome = true :=
    List.find?_isSome.mpr ⟨placed, List.mem_reverse.mpr member, beq_self_eq_true _⟩
  obtain ⟨last, found⟩ := Option.isSome_iff_exists.mp present
  exact ⟨last, find?_reverse_variants_iff.mp found⟩

/-- A unit that presents a text has the identifier of the variant that emits the text. -/
theorem variantId_of_presents {unit : PackageUnit} (wellFormed : product.WellFormed)
    (presents : product.Presents coding text unit) (found : product.emitter? text = some emitter) :
    unit.variantId = emitter.variant.id ∧
      unit.variantName = product.variantName emitter.variant.id := by
  obtain ⟨plu, member, sameText, variantId, variantName, -, -⟩ := presents.described
  obtain ⟨own, ownIn, ownText, ownId⟩ := unit_of_emitter found
  -- Both units are read back from the one text.
  have same : plu = own := by
    have read := Plu.read_text plu (wellFormed plu member)
    rw [sameText, ← ownText, Plu.read_text own (wellFormed own ownIn)] at read
    exact (Except.ok.inj read).symm
  rw [variantId, variantName, same, ownId]
  exact ⟨rfl, rfl⟩

/-- Units that present some texts in order have these texts. -/
theorem presents_own {texts : List String} {units : List PackageUnit}
    (presented : List.Forall₂ (product.Presents coding) texts units) :
    units.map PackageUnit.plu = texts ∧
      ∀ unit ∈ units, product.Presents coding unit.plu unit := by
  induction presented with
  | nil => exact ⟨rfl, nofun⟩
  | cons presents _ inductionHypothesis =>
    obtain ⟨named, rest⟩ := inductionHypothesis
    refine ⟨?_, List.forall_mem_cons.mpr ⟨presents.named ▸ presents, rest⟩⟩
    rw [List.map_cons, presents.named, named]

/-- The units that are found are those of an expansion, each presenting its text. -/
theorem units_of_packageUnits {outage : Outage} {cache after : Cache} {units : List PackageUnit}
    (ran : (packageUnits coding outage product).runOn cache = (.ok units, after)) :
    ∃ details, product.expand coding = .ok details ∧
      units.map PackageUnit.plu = details.flatMap PluDetail.plus ∧
      ∀ unit ∈ units, product.Presents coding unit.plu unit := by
  cases expanded : product.expand coding with
  | error cause =>
    rw [packageUnits_of_not_expand expanded] at ran
    exact nomatch ran
  | ok details =>
    have listing := (listing_packageUnits outage cache expanded).1
    rw [ran] at listing
    cases listing with
    | listed presented _ _ => exact ⟨details, rfl, presents_own presented⟩

/-- The name of each unit is that of the last variant with the identifier of the unit's own variant,
which is the first to emit the text of the unit and stands in the option whose detail lists it. So
the units have the names of their own variants exactly if every variant that emits a text is called
as the last one with its identifier. -/
theorem unit_names_iff {outage : Outage} {cache after : Cache} {units : List PackageUnit}
    (ran : (packageUnits coding outage product).runOn cache = (.ok units, after)) :
    (∃ details, product.expand coding = .ok details ∧ ∀ unit ∈ units, ∃ emitter last,
      product.emitter? unit.plu = some emitter ∧
      (∃ detail ∈ details, unit.plu ∈ detail.plus ∧ detail.optionId = emitter.option.id ∧
        detail.type = emitter.option.type) ∧
      unit.variantId = emitter.variant.id ∧
      product.IsLast emitter.variant.id last ∧ unit.variantName = last.variant.name) ∧
    ((∀ unit ∈ units, ∀ emitter, product.emitter? unit.plu = some emitter →
        unit.variantName = emitter.variant.name) ↔
      ∀ text emitter last, product.emitter? text = some emitter →
        product.IsLast emitter.variant.id last → last.variant.name = emitter.variant.name) := by
  obtain ⟨details, expanded, listed, presents⟩ := units_of_packageUnits ran
  obtain ⟨codable, emitted, -⟩ := product.expand_ok expanded
  have named : ∀ unit ∈ units, ∀ emitter last, product.emitter? unit.plu = some emitter →
      product.IsLast emitter.variant.id last → unit.variantName = last.variant.name := by
    intro unit member emitter last found isLast
    have name := (variantId_of_presents codable.wellFormed (presents unit member) found).2
    rw [name, variantName_of_isLast isLast]
  refine ⟨⟨details, expanded, fun unit member => ?_⟩, ?_, ?_⟩
  · have unitListed : unit.plu ∈ details.flatMap PluDetail.plus :=
      listed ▸ List.mem_map_of_mem member
    obtain ⟨detail, detailIn, textIn⟩ := List.mem_flatMap.mp unitListed
    obtain ⟨emitter, found, sameId, sameType⟩ := emitter_of_detail expanded detailIn textIn
    obtain ⟨last, isLast⟩ := exists_isLast (List.mem_of_find?_eq_some found)
    have id := (variantId_of_presents codable.wellFormed (presents unit member) found).1
    exact ⟨emitter, last, found, ⟨detail, detailIn, textIn, sameId, sameType⟩, id, isLast,
      named unit member emitter last found isLast⟩
  · intro own text emitter last found isLast
    obtain ⟨plu, pluIn, rfl, -⟩ := unit_of_emitter found
    have textListed : plu.text ∈ units.map PackageUnit.plu := by
      rw [listed, emitted, List.mem_eraseDups]
      exact List.mem_map_of_mem pluIn
    obtain ⟨unit, member, same⟩ := List.mem_map.mp textListed
    rw [← same] at found
    rw [← named unit member emitter last found isLast, own unit member emitter found]
  · intro alike unit member emitter found
    obtain ⟨last, isLast⟩ := exists_isLast (List.mem_of_find?_eq_some found)
    rw [named unit member emitter last found isLast, alike _ emitter last found isLast]

end Product

/-! ## Tours with one identifier for several variants -/

namespace Tour

/-- The world in which a product has come in, was synced, and had its codes copied. -/
def copied (entry : Product) : World Unit :=
  (Operation.reconcile Outage.none).perform (pipeline plainCoding)
    (sync.perform (pipeline plainCoding)
      ((Operation.ingest entry Outage.none).perform (pipeline plainCoding) (World.initial ())))

/-- The units of a product whose codes were copied. -/
def unitsOf (entry : Product) : Except ContentError (List PackageUnit) × Cache :=
  (packageUnits plainCoding Outage.none entry).runOn (copied entry).cache

/-- The tour with overlapping options has units, and as its variants have one name, so have they. -/
theorem overlapping_units_named : ∃ units after, unitsOf overlapping = (.ok units, after) ∧
    units.length = 3 ∧ ∀ unit ∈ units, ∀ emitter, overlapping.emitter? unit.plu = some emitter →
      unit.variantName = emitter.variant.name := by
  have counted : (unitsOf overlapping).1.toOption.map List.length = some 3 := by decide +kernel
  rcases ran : unitsOf overlapping with ⟨cause | units, after⟩
  · rw [ran] at counted
    exact nomatch counted
  · rw [ran] at counted
    refine ⟨units, after, rfl, Option.some.inj counted, (Product.unit_names_iff ran).2.mpr ?_⟩
    have adults : ∀ placed ∈ overlapping.variants, placed.variant.name = "Adult" := by decide
    intro text emitter last found isLast
    obtain ⟨earlier, later, walk, -, -⟩ := isLast
    have lastIn : last ∈ overlapping.variants := by
      rw [walk]
      exact List.mem_append_right earlier List.mem_cons_self
    rw [adults last lastIn, adults emitter (List.mem_of_find?_eq_some found)]

/-- The tour on Mondays for adults and on Tuesdays for children, with one identifier for both. -/
def namesakes : Product :=
  { product with groups := [⟨1, "Tickets", [
      ⟨2, "Early", .schedule, [⟨3, "Day", [⟨4, "Adult", true, true, []⟩], ["mon"], []⟩]⟩,
      ⟨5, "Late", .schedule, [⟨3, "Day", [⟨4, "Child", true, true, []⟩], ["tue"], []⟩]⟩]⟩] }

/-- Its unit for Monday, which the adults have alone, is named after the children. -/
theorem monday_named_after_tuesday :
    ¬∀ (product : Product) (coding : Coding) (outage : Outage) (cache after : Cache)
      (units : List PackageUnit),
      (packageUnits coding outage product).runOn cache = (.ok units, after) →
      ∀ unit ∈ units, ∃ emitter, product.emitter? unit.plu = some emitter ∧
        unit.variantName = emitter.variant.name := by
  intro own
  have listed : (unitsOf namesakes).1.toOption.map
      (fun units => units.map fun unit => (unit.plu, unit.variantName)) =
        some [("7|1|4|mon|", "Child"), ("7|1|4|tue|", "Child")] := by decide +kernel
  have adults : (namesakes.emitter? "7|1|4|mon|").map (fun placed => placed.variant.name) =
      some "Adult" := by decide +kernel
  rcases ran : unitsOf namesakes with ⟨cause | units, after⟩
  · rw [ran] at listed
    exact nomatch listed
  · rw [ran] at listed
    have monday : ("7|1|4|mon|", "Child") ∈ units.map fun unit => (unit.plu, unit.variantName) := by
      rw [show units.map _ = _ from Option.some.inj listed]
      exact List.mem_cons_self
    obtain ⟨unit, member, same⟩ := List.mem_map.mp monday
    obtain ⟨plu, name⟩ := Prod.mk.inj same
    obtain ⟨emitter, found, alike⟩ := own _ _ _ _ _ _ ran unit member
    rw [plu] at found
    rw [found, Option.map_some, ← alike, name] at adults
    exact absurd (Option.some.inj adults) (by decide)

end Tour

end Syndication
