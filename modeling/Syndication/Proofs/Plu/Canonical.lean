import Mathlib.Data.Set.Defs
import Syndication.Proofs.Plu.Emission

/-!
# What a canonical text says

A unit is made from numbers and from a departure and a time slot, either of which may be missing
and counts as empty then. Making it is refused for a delimiter only, and the first part that has
one is named. The text of a unit that was made says everything about it: it is read back as the
unit, so different units have different texts.

The texts of a product's version are those of the units that can be made for it. Those of another
product, or of another version, are all different, and so are the texts of their expansions.
-/

namespace Syndication

namespace Plu

/-- A sellable unit from its parts. A part that it does not have is an empty segment. -/
def ofParts (productId : Int64) (version : Int32) (variantId : Int64)
    (schedule round : Option String) : Except PluError Plu :=
  make productId version variantId (schedule.getD "") (round.getD "")

/-- A part that can stand in a canonical text: it is missing, or it is free of the delimiter. -/
def Free (part : Option String) : Prop := ∀ segment, part = some segment →
  pluDelimiter ∉ segment.toList

/-- A unit that was made from some parts. -/
def Made (plu : Plu) : Prop :=
  ∃ productId version variantId schedule round,
    ofParts productId version variantId schedule round = .ok plu

/-- The canonical texts of the units that can be made for a version of a product. -/
def texts (productId : Int64) (version : Int32) : Set String :=
  {text | ∃ variantId schedule round plu,
    ofParts productId version variantId schedule round = .ok plu ∧ plu.text = text}

variable {productId : Int64} {version : Int32} {variantId : Int64}
  {part schedule round : Option String} {plu left right : Plu}

/-- A part can stand in a canonical text exactly when its segment has no delimiter. -/
theorem free_iff : Free part ↔ hasDelimiter (part.getD "") = false := by
  unfold Free hasDelimiter
  cases part <;> simp

/-- A unit is made exactly when both parts can stand in a text, and then it has the parts given. -/
theorem ofParts_ok_iff : ofParts productId version variantId schedule round = .ok plu ↔
    (Free schedule ∧ Free round) ∧
      plu = ⟨productId, version, variantId, schedule.getD "", round.getD ""⟩ := by
  rw [free_iff, free_iff, ofParts]
  exact make_ok_iff ⟨productId, version, variantId, schedule.getD "", round.getD ""⟩ plu

/-- Making a unit is refused exactly when some part cannot stand in a text. The departure is named
if it is such a part, and else the time slot. -/
theorem ofParts_error_iff {cause : PluError} :
    ofParts productId version variantId schedule round = .error cause ↔
      (¬Free schedule ∧ cause = .delimiterInSegment (schedule.getD "")) ∨
        (Free schedule ∧ ¬Free round ∧ cause = .delimiterInSegment (round.getD "")) := by
  rw [free_iff, free_iff, ofParts, make]
  cases hasDelimiter (schedule.getD "") <;> cases hasDelimiter (round.getD "") <;> simp [eq_comm]

/-- Units that are made are well-formed. -/
theorem wellFormed_of_ofParts
    (made : ofParts productId version variantId schedule round = .ok plu) : plu.WellFormed := by
  obtain ⟨⟨scheduleFree, roundFree⟩, rfl⟩ := ofParts_ok_iff.mp made
  exact ⟨free_iff.mp scheduleFree, free_iff.mp roundFree⟩

/-- Well-formed units with one text are the same unit: both are what the text is read as. -/
theorem WellFormed.eq_of_text_eq (leftWellFormed : left.WellFormed)
    (rightWellFormed : right.WellFormed) (same : left.text = right.text) : left = right := by
  have readLeft := read_text left leftWellFormed
  have readRight := read_text right rightWellFormed
  rw [same, readRight] at readLeft
  exact (Except.ok.inj readLeft).symm

/-- Texts of different products, or of different versions of one, are different. -/
theorem disjoint_texts {otherId : Int64} {otherVersion : Int32}
    (different : (productId, version) ≠ (otherId, otherVersion)) :
    ∀ text ∈ texts productId version, text ∉ texts otherId otherVersion := by
  rintro _ ⟨_, _, _, left, madeLeft, rfl⟩ ⟨_, _, _, right, madeRight, same⟩
  have equal : right = left :=
    (wellFormed_of_ofParts madeRight).eq_of_text_eq (wellFormed_of_ofParts madeLeft) same
  obtain ⟨_, rfl⟩ := ofParts_ok_iff.mp madeLeft
  obtain ⟨_, rfl⟩ := ofParts_ok_iff.mp madeRight
  injection equal with sameId sameVersion
  exact different (Prod.ext sameId.symm sameVersion.symm)

/-- Canonical texts are faithful. A unit is refused exactly when its departure or its time slot has
the delimiter, and the first of them that has it is named; otherwise it is made of the parts given
and read back from its text. So two units that were made have different texts unless they are the
same, and no text belongs to two products or to two versions of a product. -/
theorem canonical_text_faithful :
    (∀ (productId : Int64) (version : Int32) (variantId : Int64) (schedule round : Option String),
      (∀ cause, ofParts productId version variantId schedule round = .error cause ↔
        (¬Free schedule ∧ cause = .delimiterInSegment (schedule.getD "")) ∨
          (Free schedule ∧ ¬Free round ∧ cause = .delimiterInSegment (round.getD ""))) ∧
      (∀ plu, ofParts productId version variantId schedule round = .ok plu ↔
        (Free schedule ∧ Free round) ∧
          plu = ⟨productId, version, variantId, schedule.getD "", round.getD ""⟩) ∧
      ∀ plu, ofParts productId version variantId schedule round = .ok plu →
        read plu.text = .ok plu) ∧
    (∀ left right : Plu, left.Made → right.Made → left.text = right.text → left = right) ∧
    ∀ (firstId secondId : Int64) (firstVersion secondVersion : Int32),
      (firstId, firstVersion) ≠ (secondId, secondVersion) →
        ∀ text ∈ texts firstId firstVersion, text ∉ texts secondId secondVersion := by
  refine ⟨fun productId version variantId schedule round => ⟨?_, ?_, ?_⟩, ?_, ?_⟩
  · exact fun cause => ofParts_error_iff
  · exact fun plu => ofParts_ok_iff
  · exact fun plu made => read_text plu (wellFormed_of_ofParts made)
  · rintro left right ⟨_, _, _, _, _, madeLeft⟩ ⟨_, _, _, _, _, madeRight⟩ same
    exact (wellFormed_of_ofParts madeLeft).eq_of_text_eq (wellFormed_of_ofParts madeRight) same
  · exact fun _ _ _ _ different => disjoint_texts different

/-- A unit with a departure and a time slot is read back from its text, which no later version of
its product has. -/
theorem timed_text_faithful : ∃ plu : Plu,
    ofParts 42 3 9 (some "2025-01-01") (some "09:00") = .ok plu ∧
      plu.text = "42|3|9|2025-01-01|09:00" ∧ read "42|3|9|2025-01-01|09:00" = .ok plu ∧
        "42|3|9|2025-01-01|09:00" ∉ texts 42 4 := by
  have made : ofParts 42 3 9 (some "2025-01-01") (some "09:00") =
      .ok ⟨42, 3, 9, "2025-01-01", "09:00"⟩ :=
    ofParts_ok_iff.mpr ⟨⟨free_iff.mpr (by decide +kernel), free_iff.mpr (by decide +kernel)⟩, rfl⟩
  have written : (⟨42, 3, 9, "2025-01-01", "09:00"⟩ : Plu).text = "42|3|9|2025-01-01|09:00" := by
    decide +kernel
  have faithful := canonical_text_faithful
  have readBack := (faithful.1 42 3 9 (some "2025-01-01") (some "09:00")).2.2 _ made
  have apart := faithful.2.2 42 42 3 4 (by decide)
  refine ⟨_, made, written, written ▸ readBack, ?_⟩
  exact apart _ ⟨9, _, _, _, made, written⟩

end Plu

/-! ## Texts of products -/

namespace Product

variable {coding : Coding} {product : Product} {details : List PluDetail} {text : String}

/-- The texts of an expansion are canonical texts of the product's version. -/
theorem mem_texts_of_expand (expanded : product.expand coding = .ok details)
    (member : text ∈ details.flatMap PluDetail.plus) :
    text ∈ Plu.texts product.id product.version := by
  obtain ⟨codable, listed, _⟩ := product.expand_ok expanded
  rw [listed, List.mem_eraseDups, texts, List.mem_map] at member
  obtain ⟨unit, unitIn, rfl⟩ := member
  have wellFormed := codable.wellFormed unit unitIn
  simp only [units, optionUnits, variantUnits, List.mem_flatMap, List.mem_map] at unitIn
  obtain ⟨_, _, _, _, variant, _, segments, _, rfl⟩ := unitIn
  refine ⟨variant.id, some segments.1, some segments.2, _, ?_, rfl⟩
  exact (Plu.make_ok_iff _ _).mpr ⟨wellFormed, rfl⟩

/-- Expansions of different products, or of different versions of one, have no text in common. -/
theorem disjoint_expansions {other : Product} {otherCoding : Coding} {otherDetails : List PluDetail}
    (expanded : product.expand coding = .ok details)
    (otherExpanded : other.expand otherCoding = .ok otherDetails)
    (different : (product.id, product.version) ≠ (other.id, other.version))
    (member : text ∈ details.flatMap PluDetail.plus) :
    text ∉ otherDetails.flatMap PluDetail.plus := by
  intro otherMember
  exact Plu.disjoint_texts different text (mem_texts_of_expand expanded member)
    (mem_texts_of_expand otherExpanded otherMember)

end Product

end Syndication
