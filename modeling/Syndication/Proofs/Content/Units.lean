import Syndication.Content.Build
import Syndication.Proofs.Attempt.Services
import Syndication.Proofs.Plu.Emission

/-!
# The units of a payload

The content stage looks every text of a product up under its code. Since each detail has a
code for each of its texts, no text is passed over: the units that come out carry the texts
of the details, all of them and in order. Whatever the cache holds in the meantime, a text
that it does not confirm ends the attempt and is never left out. The cache is only read.
-/

namespace Syndication

open Attempt

variable {coding : Coding} {product : Product} {detail : PluDetail} {outage : Outage}
  {others : Cache → Cache → Prop} {cache : Cache}

/-- The code that a detail has for one of its texts is the text's code. -/
theorem PluDetail.codeOf?_of_assigns (assigns : coding.Assigns detail.plus detail.hashes)
    {text code : String} (member : text ∈ detail.plus) (coded : coding.code text = .ok code) :
    detail.codeOf? text = some code := by
  have entered : (code, text) ∈ detail.hashes.toList := by
    simpa using (assigns code text).mpr ⟨member, coded⟩
  unfold PluDetail.codeOf?
  cases found : detail.hashes.toList.find? fun entry => entry.2 == text with
  | none =>
    have missing := List.find?_eq_none.mp found (code, text) entered
    simp at missing
  | some entry =>
    have same : entry.2 = text := by simpa using List.find?_some found
    have assigned : detail.hashes[entry.1]? = some entry.2 :=
      Std.ExtTreeMap.mem_toList_iff_getElem?_eq_some.mp (List.mem_of_find?_eq_some found)
    have entryCode := ((assigns entry.1 entry.2).mp assigned).2
    rw [same, coded] at entryCode
    rw [Option.map_some, Except.ok.inj entryCode]

/-- A unit that a cached text confirms carries the text. -/
theorem Product.plu_of_packageUnit {optionId : Int64} {code text : String} {cached : Option String}
    {unit : PackageUnit} (formed : product.packageUnit optionId code text cached = .ok unit) :
    unit.plu = text := by
  unfold Product.packageUnit at formed
  split at formed
  case isTrue =>
    split at formed
    case h_1 =>
      cases formed
      rfl
    case h_2 => cases formed
  case isFalse => cases formed

/-- The units of texts that all have a code in their detail carry the texts in order.

Induct over the texts. Each step reads the cache once, and what it finds decides between the
unit of the text and failure. -/
theorem meets_unitsOfTexts {texts : List String}
    (coded : ∀ text ∈ texts, ∃ code, detail.codeOf? text = some code) :
    (unitsOfTexts outage product detail texts).Meets others (fun before after => after = before)
      (Outcome (fun _ => True) fun units _ => units.map PackageUnit.plu = texts) cache := by
  induction texts generalizing cache with
  | nil => exact meets_pure trivial rfl
  | cons text rest inductionHypothesis =>
    rw [List.forall_mem_cons] at coded
    obtain ⟨⟨code, textCode⟩, restCoded⟩ := coded
    rw [unitsOfTexts, textCode]
    refine (Outage.meets_cacheGet code).wrapped.followed fun cached later _ _ => ?_
    have formed : (ofExcept (product.packageUnit detail.optionId code text cached)).Meets others
        (fun before after => after = before)
        (Outcome (fun _ => True) fun unit _ => unit.plu = text) later :=
      meets_ofExcept trivial fun unit formed => product.plu_of_packageUnit formed
    refine formed.followed fun unit _ _ carried => ?_
    refine (inductionHypothesis restCoded).followed fun units _ _ carriedRest => ?_
    exact meets_pure trivial (by rw [List.map_cons, carried, carriedRest])

/-- The units of details carry the texts of the details in order. -/
theorem meets_unitsOfDetails {details : List PluDetail}
    (coded : ∀ detail ∈ details, ∀ text ∈ detail.plus, ∃ code, detail.codeOf? text = some code) :
    (unitsOfDetails outage product details).Meets others (fun before after => after = before)
      (Outcome (fun _ => True) fun units _ =>
        units.map PackageUnit.plu = details.flatMap PluDetail.plus) cache := by
  induction details generalizing cache with
  | nil => exact meets_pure trivial rfl
  | cons detail rest inductionHypothesis =>
    rw [List.forall_mem_cons] at coded
    refine (meets_unitsOfTexts coded.1).followed fun units _ _ carried => ?_
    refine (inductionHypothesis coded.2).followed fun unitsRest _ _ carriedRest => ?_
    exact meets_pure trivial (by rw [List.map_append, carried, carriedRest, List.flatMap_cons])

/-- In an expansion every text of a detail has its code in the detail. -/
theorem Product.codeOf?_of_expand {details : List PluDetail}
    (expanded : product.expand coding = .ok details) (member : detail ∈ details) {text : String}
    (listed : text ∈ detail.plus) :
    ∃ code, coding.code text = .ok code ∧ detail.codeOf? text = some code := by
  obtain ⟨codable, emitted, assigned⟩ := product.expand_ok expanded
  have inTexts : text ∈ product.texts := by
    rw [← List.mem_eraseDups, ← emitted]
    exact List.mem_flatMap.mpr ⟨detail, member, listed⟩
  obtain ⟨code, coded⟩ := codable.coded text inTexts
  exact ⟨code, coded, PluDetail.codeOf?_of_assigns (assigned detail member) listed coded⟩

/-- The units of a product carry the texts of its expansion in order. -/
theorem meets_packageUnits :
    (packageUnits coding outage product).Meets others (fun before after => after = before)
      (Outcome (fun _ => True) fun units _ => ∃ details, product.expand coding = .ok details ∧
        units.map PackageUnit.plu = details.flatMap PluDetail.plus) cache := by
  have expanded : ((ofExcept (product.expand coding)).mapError ContentError.codec).Meets others
      (fun before after => after = before) (Outcome (fun _ => True) fun details _ =>
        product.expand coding = .ok details) cache :=
    (meets_ofExcept trivial fun _ expanded => expanded).wrapped
  refine expanded.followed fun details later _ emitted => ?_
  have carried : (unitsOfDetails outage product details).Meets others
      (fun before after => after = before) _ later :=
    meets_unitsOfDetails fun detail member text listed => by
      obtain ⟨code, _, found⟩ := product.codeOf?_of_expand emitted member listed
      exact ⟨code, found⟩
  refine carried.weaken (fun _ _ same => same) (fun _ _ same => same) ?_
  exact fun _ _ reached => ⟨trivial, fun units same => ⟨details, emitted, reached.2 units same⟩⟩

end Syndication
