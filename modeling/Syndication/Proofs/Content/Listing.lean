import Mathlib.Data.List.Forall2
import Syndication.Proofs.Content.Units

/-!
# Listing units

The units of a payload are found by looking up the texts of an expansion in order. Each text has a
code in its detail and is read back, so nothing but the cache decides what becomes of it: a text
that the cache confirms gives its unit, and the first one that it does not confirm ends the
listing. `Listing` says what looking up a list of texts leads to. It is built along the list, and
put together from the lists of the details.
-/

namespace Syndication

open Attempt

/-! ## Confirmed texts -/

/-- The cache holds a text under its code. -/
def Cache.confirms (coding : Coding) (cache : Cache) (text : String) : Bool :=
  match coding.code text with
  | .ok code => cache.get? code == some text
  | .error _ => false

/-- The first of some texts that the cache does not confirm. -/
def Cache.firstUnconfirmed? (coding : Coding) (cache : Cache) (texts : List String) :
    Option String :=
  texts.find? fun text => !cache.confirms coding text

/-- A unit presents a text: it has the text and its code, and is described by the parts of a unit of
the product with the text. -/
structure Product.Presents (coding : Coding) (product : Product) (text : String)
    (unit : PackageUnit) : Prop where
  named : unit.plu = text
  coded : coding.code text = .ok unit.code
  described : ∃ plu ∈ product.units, plu.text = text ∧ unit.variantId = plu.variantId ∧
    unit.variantName = product.variantName plu.variantId ∧
    unit.schedule = nonempty? plu.schedule ∧ unit.round = nonempty? plu.round

/-- The text of a unit can be read from the cache under its code. -/
structure PackageUnit.Cached (coding : Coding) (outage : Outage) (cache : Cache)
    (unit : PackageUnit) : Prop where
  coded : coding.code unit.plu = .ok unit.code
  reached : outage.cache (.get unit.code) = none
  held : cache.get? unit.code = some unit.plu

/-- What looking up texts one after the other can lead to. -/
inductive Listing (coding : Coding) (outage : Outage) (product : Product) (cache : Cache)
    (texts : List String) : Except ContentError (List PackageUnit) → Prop
  /-- The cache confirms every text, and the units present them in order. -/
  | listed {units : List PackageUnit}
      (presented : List.Forall₂ (product.Presents coding) texts units)
      (confirmed : cache.firstUnconfirmed? coding texts = none)
      (cached : ∀ unit ∈ units, unit.Cached coding outage cache) :
      Listing coding outage product cache texts (.ok units)
  /-- The entry of a code cannot be read. -/
  | unreadable {code reason : String} (fails : outage.cache (.get code) = some reason) :
      Listing coding outage product cache texts (.error (.cache (.unavailable reason)))
  /-- The cache does not confirm some text, and this is the first one. -/
  | unresolved {text code : String} (first : cache.firstUnconfirmed? coding texts = some text)
      (coded : coding.code text = .ok code) :
      Listing coding outage product cache texts (.error (.unresolvedPlu code text))

section Listing

variable {coding : Coding} {outage : Outage} {product : Product} {cache : Cache}
  {text code : String} {texts rest : List String} {unit : PackageUnit}
  {units : List PackageUnit} {detail : PluDetail}
  {result : Except ContentError (List PackageUnit)}

namespace Cache

/-- A text that has a code is confirmed when the cache has it under the code. -/
theorem confirms_iff (coded : coding.code text = .ok code) :
    cache.confirms coding text = true ↔ cache.get? code = some text := by
  rw [confirms, coded]
  exact beq_iff_eq

/-- A confirmed text is passed over in the search for one that is not. -/
theorem firstUnconfirmed?_cons_of_confirms (rest : List String)
    (confirmed : cache.confirms coding text = true) :
    cache.firstUnconfirmed? coding (text :: rest) = cache.firstUnconfirmed? coding rest := by
  simp [firstUnconfirmed?, confirmed]

/-- A text that is not confirmed ends the search. -/
theorem firstUnconfirmed?_cons_of_not_confirms (rest : List String)
    (unconfirmed : ¬cache.confirms coding text = true) :
    cache.firstUnconfirmed? coding (text :: rest) = some text := by
  simp [firstUnconfirmed?, unconfirmed]

/-- The search goes on in the second list when all of the first is confirmed. -/
theorem firstUnconfirmed?_append :
    cache.firstUnconfirmed? coding (texts ++ rest) =
      (cache.firstUnconfirmed? coding texts).or (cache.firstUnconfirmed? coding rest) :=
  List.find?_append

end Cache

namespace Listing

/-- A text that the cache confirms comes before what the rest lists. -/
theorem cons (reached : outage.cache (.get unit.code) = none)
    (confirmed : cache.confirms coding text = true) (presents : product.Presents coding text unit)
    (listing : Listing coding outage product cache rest result) :
    Listing coding outage product cache (text :: rest) (result.map (unit :: ·)) := by
  have passed := Cache.firstUnconfirmed?_cons_of_confirms rest confirmed
  cases listing with
  | listed presented complete cached =>
    have held : unit.Cached coding outage cache := by
      obtain rfl := presents.named
      exact ⟨presents.coded, reached, (Cache.confirms_iff presents.coded).mp confirmed⟩
    apply listed
    · exact .cons presents presented
    · rw [passed, complete]
    · exact List.forall_mem_cons.mpr ⟨held, cached⟩
  | unreadable fails => exact unreadable fails
  | unresolved first coded => exact unresolved (passed.trans first) coded

/-- What follows a list that is confirmed is listed after it. -/
theorem append (before : Listing coding outage product cache texts (.ok units))
    (listing : Listing coding outage product cache rest result) :
    Listing coding outage product cache (texts ++ rest) (result.map (units ++ ·)) := by
  cases before with
  | listed presented confirmed cached =>
    have passed : cache.firstUnconfirmed? coding (texts ++ rest) =
        cache.firstUnconfirmed? coding rest := by
      rw [Cache.firstUnconfirmed?_append, confirmed, Option.none_or]
    cases listing with
    | listed presentedRest complete cachedRest =>
      apply listed
      · exact List.rel_append presented presentedRest
      · rw [passed, complete]
      · exact List.forall_mem_append.mpr ⟨cached, cachedRest⟩
    | unreadable fails => exact unreadable fails
    | unresolved first coded => exact unresolved (passed.trans first) coded

/-- What follows a list that ends in a failure is not looked up. -/
theorem append_of_error {cause : ContentError} (rest : List String)
    (failed : Listing coding outage product cache texts (.error cause)) :
    Listing coding outage product cache (texts ++ rest) (.error cause) := by
  cases failed with
  | unreadable fails => exact unreadable fails
  | unresolved first coded =>
    apply unresolved _ coded
    rw [Cache.firstUnconfirmed?_append, first, Option.some_or]

end Listing

/-- The texts of a detail are listed in order, where each has its code in the detail and is the text
of a unit of the product.

Induct over the texts. Whether the entry of the first can be read, and what it is, decides. -/
theorem listing_unitsOfTexts (outage : Outage) (cache : Cache) (wellFormed : product.WellFormed)
    (coded : ∀ text ∈ texts, ∃ code, coding.code text = .ok code ∧ detail.codeOf? text = some code)
    (own : ∀ text ∈ texts, text ∈ product.texts) :
    Listing coding outage product cache texts
        ((unitsOfTexts outage product detail texts).runOn cache).1 ∧
      ((unitsOfTexts outage product detail texts).runOn cache).2 = cache := by
  induction texts with
  | nil => exact ⟨.listed .nil rfl (by simp), rfl⟩
  | cons text rest inductionHypothesis =>
    rw [List.forall_mem_cons] at coded own
    obtain ⟨⟨code, textCode, found⟩, codedRest⟩ := coded
    obtain ⟨plu, member, rfl⟩ := List.mem_map.mp own.1
    rw [unitsOfTexts, found, runOn_bind, runOn_mapError, Outage.cacheGet, Outage.runOn_onCache]
    cases reached : outage.cache (.get code) with
    | some reason => exact ⟨.unreadable reached, rfl⟩
    | none =>
      simp only [Except.mapError]
      rw [runOn_bind, runOn_ofExcept, Product.packageUnit]
      by_cases held : cache.get? code = some plu.text
      · rw [if_pos held, Plu.read_text plu (wellFormed plu member)]
        simp only [runOn_bind_pure]
        obtain ⟨listing, same⟩ := inductionHypothesis codedRest own.2
        constructor
        · apply listing.cons reached ((Cache.confirms_iff textCode).mpr held)
          exact ⟨rfl, textCode, plu, member, rfl, rfl, rfl, rfl, rfl⟩
        · exact same
      · rw [if_neg held]
        have first := Cache.firstUnconfirmed?_cons_of_not_confirms rest
          (mt (Cache.confirms_iff textCode).mp held)
        exact ⟨.unresolved first textCode, rfl⟩

/-- The texts of several details are listed one detail after the other. -/
theorem listing_unitsOfDetails {details : List PluDetail} (wellFormed : product.WellFormed)
    (coded : ∀ detail ∈ details, ∀ text ∈ detail.plus, ∃ code, coding.code text = .ok code ∧
      detail.codeOf? text = some code)
    (own : ∀ detail ∈ details, ∀ text ∈ detail.plus, text ∈ product.texts) :
    Listing coding outage product cache (details.flatMap PluDetail.plus)
        ((unitsOfDetails outage product details).runOn cache).1 ∧
      ((unitsOfDetails outage product details).runOn cache).2 = cache := by
  induction details with
  | nil => exact ⟨.listed .nil rfl (by simp), rfl⟩
  | cons detail rest inductionHypothesis =>
    rw [List.forall_mem_cons] at coded own
    obtain ⟨listing, same⟩ := listing_unitsOfTexts outage cache wellFormed coded.1 own.1
    obtain ⟨listingRest, sameRest⟩ := inductionHypothesis coded.2 own.2
    rw [unitsOfDetails, runOn_bind, List.flatMap_cons]
    rcases ran : (unitsOfTexts outage product detail detail.plus).runOn cache
      with ⟨cause | units, later⟩
    · rw [ran] at listing same
      exact ⟨listing.append_of_error _, same⟩
    · rw [ran] at listing same
      obtain rfl : later = cache := same
      simp only [runOn_bind_pure]
      exact ⟨listing.append listingRest, sameRest⟩

/-- An expansion is listed, and the cache is left as it is. -/
theorem listing_packageUnits {details : List PluDetail} (outage : Outage) (cache : Cache)
    (expanded : product.expand coding = .ok details) :
    Listing coding outage product cache (details.flatMap PluDetail.plus)
        ((packageUnits coding outage product).runOn cache).1 ∧
      ((packageUnits coding outage product).runOn cache).2 = cache := by
  obtain ⟨codable, emitted, _⟩ := product.expand_ok expanded
  have own : ∀ detail ∈ details, ∀ text ∈ detail.plus, text ∈ product.texts := by
    intro detail member text listed
    rw [← List.mem_eraseDups, ← emitted]
    exact List.mem_flatMap.mpr ⟨detail, member, listed⟩
  rw [packageUnits, expanded, runOn_bind, runOn_mapError, runOn_ofExcept]
  apply listing_unitsOfDetails codable.wellFormed _ own
  intro detail member text listed
  exact product.codeOf?_of_expand expanded member listed

/-- A product that cannot be expanded has no units. -/
theorem packageUnits_of_not_expand {cause : ExpansionError}
    (refused : product.expand coding = .error cause) :
    (packageUnits coding outage product).runOn cache = (.error (.codec cause), cache) := by
  rw [packageUnits, refused]
  rfl

/-- The cache is left as it is in any case. -/
theorem cache_of_packageUnits :
    ((packageUnits coding outage product).runOn cache).2 = cache := by
  cases expanded : product.expand coding with
  | error cause => rw [packageUnits_of_not_expand expanded]
  | ok details => exact (listing_packageUnits outage cache expanded).2

end Listing

end Syndication
