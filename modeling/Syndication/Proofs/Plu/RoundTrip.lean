import Syndication.Plu.Basic

/-!
# Price look-up texts read back

A canonical text is five segments, of which the first three are written by `toString`.
Reading undoes writing for every unit whose departure and time slot are free of the
delimiter, which `Plu.WellFormed` says and `Plu.make` checks. Consequently two such units
with one text are the same unit.

The numbers need their own argument: a literal written by `toString` consists of digits,
possibly after a minus sign, so neither sign of the reader's grammar is in its way.
-/

namespace Syndication

namespace Text

/-- Reading a run of digits gives its value in the standard library's sense. -/
theorem naturalFrom?_digits (value : Nat) (characters : List Char)
    (digits : ∀ character ∈ characters, character.isDigit = true) :
    naturalFrom? value characters = some (Nat.ofDigitChars 10 characters value) := by
  induction characters generalizing value with
  | nil => simp [naturalFrom?]
  | cons character rest inductionHypothesis =>
    have bounds : '0' ≤ character ∧ character ≤ '9' := by
      have inRange := Char.isDigit_iff_toNat.mp (digits character List.mem_cons_self)
      exact ⟨Char.le_def.mpr (UInt32.le_iff_toNat_le.mpr inRange.1),
        Char.le_def.mpr (UInt32.le_iff_toNat_le.mpr inRange.2)⟩
    have tail := inductionHypothesis (10 * value + (character.toNat - '0'.toNat))
      fun other member => digits other (List.mem_cons_of_mem character member)
    simp only [naturalFrom?, digit?, bounds, and_self, if_true, tail, Nat.ofDigitChars_cons]

/-- The decimal digits of a natural number are read back as the number. -/
theorem natural?_toDigits (value : Nat) : natural? (Nat.toDigits 10 value) = some value := by
  have digits : ∀ character ∈ Nat.toDigits 10 value, character.isDigit = true := fun _ member =>
    Nat.isDigit_of_mem_toDigits (by decide) (by decide) member
  have read := naturalFrom?_digits 0 (Nat.toDigits 10 value) digits
  cases written : Nat.toDigits 10 value with
  | nil => exact absurd written Nat.toDigits_ne_nil
  | cons first rest =>
    rw [written] at read
    rw [natural?, read, ← written, Nat.ofDigitChars_ten_toDigits]
    exact List.cons_ne_nil first rest

/-- A literal that begins with a digit has no sign. -/
theorem integer?_of_digit (first : Char) (rest : List Char) (digit : first.isDigit = true) :
    integer? (first :: rest) = (natural? (first :: rest)).map Int.ofNat := by
  unfold integer?
  split
  case h_1 same =>
    obtain ⟨rfl, rfl⟩ := List.cons.inj same
    exact absurd digit (by decide)
  case h_2 same =>
    obtain ⟨rfl, rfl⟩ := List.cons.inj same
    exact absurd digit (by decide)
  case h_3 => rfl

/-- A number that is not negative is written by its digits. -/
theorem toList_toString_ofNat (magnitude : Nat) :
    (toString (Int.ofNat magnitude)).toList = Nat.toDigits 10 magnitude := Nat.toList_repr

/-- A negative number is written by a minus sign and the digits of its magnitude. -/
theorem toList_toString_negSucc (magnitude : Nat) :
    (toString (Int.negSucc magnitude)).toList = '-' :: Nat.toDigits 10 (magnitude + 1) := by
  simp [Int.toString_eq_repr, Int.repr, String.toList_append, Nat.toList_repr]

/-- An integer's own literal is read back as the integer. -/
theorem integer?_toString (value : Int) : integer? (toString value).toList = some value := by
  cases value with
  | ofNat magnitude =>
    rw [toList_toString_ofNat]
    cases digits : Nat.toDigits 10 magnitude with
    | nil => exact absurd digits Nat.toDigits_ne_nil
    | cons first rest =>
      have digit : first.isDigit = true :=
        Nat.isDigit_of_mem_toDigits (b := 10) (n := magnitude) (by decide) (by decide)
          (digits ▸ List.mem_cons_self)
      rw [integer?_of_digit first rest digit, ← digits, natural?_toDigits]
      rfl
  | negSucc magnitude =>
    rw [toList_toString_negSucc]
    simp [integer?, natural?_toDigits, Int.negSucc_eq]

/-- Every 64-bit integer is read back from its literal. -/
theorem readInt64?_toString (value : Int64) : readInt64? (toString value.toInt) = some value := by
  rw [readInt64?, integer?_toString, Option.bind_some, int64?,
    if_pos ⟨value.minValue_le_toInt, value.toInt_le⟩, Int64.ofInt_toInt]

/-- A 32-bit integer is in the range of 64-bit integers and stands for itself there. -/
theorem int64?_of_int32 (value : Int32) :
    ∃ wide : Int64, int64? value.toInt = some wide ∧ wide.toInt = value.toInt := by
  have lower : -2 ^ 31 ≤ value.toInt := value.le_toInt
  have upper : value.toInt < 2 ^ 31 := value.toInt_lt
  have inRange : Int64.minValue.toInt ≤ value.toInt ∧ value.toInt ≤ Int64.maxValue.toInt := by
    constructor
    · exact Int.le_trans (by decide) lower
    · exact Int.le_trans (Int.le_of_lt upper) (by decide)
  refine ⟨Int64.ofInt value.toInt, if_pos inRange, ?_⟩
  exact Int64.toInt_ofInt_of_le (by omega) (by omega)

end Text

namespace Plu

/-- A unit whose departure and time slot can stand in a canonical text. -/
def WellFormed (plu : Plu) : Prop :=
  hasDelimiter plu.schedule = false ∧ hasDelimiter plu.round = false

/-- Exactly the well-formed units can be made from their parts. -/
theorem make_ok_iff (plu made : Plu) :
    make plu.productId plu.version plu.variantId plu.schedule plu.round = .ok made ↔
      plu.WellFormed ∧ made = plu := by
  unfold make WellFormed
  split
  case isTrue delimited => simp [delimited]
  case isFalse departureFree =>
    split
    case isTrue delimited => simp [delimited]
    case isFalse slotFree =>
      simp only [Bool.not_eq_true] at departureFree slotFree
      simp only [departureFree, slotFree, and_self, true_and, Except.ok.injEq]
      exact eq_comm

/-- A literal written by `toString` contains no delimiter. -/
theorem delimiter_not_mem_toString (value : Int) : pluDelimiter ∉ (toString value).toList := by
  intro member
  have digit : ∀ magnitude : Nat, pluDelimiter ∉ Nat.toDigits 10 magnitude :=
    fun magnitude inside =>
    absurd (Nat.isDigit_of_mem_toDigits (b := 10) (n := magnitude) (by decide) (by decide) inside)
      (by decide)
  cases value with
  | ofNat magnitude => exact digit magnitude (Text.toList_toString_ofNat magnitude ▸ member)
  | negSucc magnitude =>
    rw [Text.toList_toString_negSucc] at member
    rcases List.mem_cons.mp member with isSign | inside
    · exact absurd isSign (by decide)
    · exact digit (magnitude + 1) inside

/-- The segments of a well-formed unit's text are the five parts. -/
theorem segments_text (plu : Plu) (wellFormed : plu.WellFormed) :
    segments plu.text = [toString plu.productId.toInt, toString plu.version.toInt,
      toString plu.variantId.toInt, plu.schedule, plu.round] := by
  have scheduleFree : pluDelimiter ∉ plu.schedule.toList := by
    simpa [hasDelimiter] using wellFormed.1
  have roundFree : pluDelimiter ∉ plu.round.toList := by
    simpa [hasDelimiter] using wellFormed.2
  have parts : plu.text.toList =
      (toString plu.productId.toInt).toList ++ pluDelimiter ::
        ((toString plu.version.toInt).toList ++ pluDelimiter ::
          ((toString plu.variantId.toInt).toList ++ pluDelimiter ::
            (plu.schedule.toList ++ pluDelimiter :: plu.round.toList))) := by
    simp [text, String.toList_append, pluDelimiter]
  rw [segments, parts,
    List.splitOn_append_cons_self_of_not_mem (delimiter_not_mem_toString _),
    List.splitOn_append_cons_self_of_not_mem (delimiter_not_mem_toString _),
    List.splitOn_append_cons_self_of_not_mem (delimiter_not_mem_toString _),
    List.splitOn_append_cons_self_of_not_mem scheduleFree,
    List.splitOn_eq_singleton roundFree]
  simp only [List.map_cons, List.map_nil, String.ofList_toList]

/-- Reading the canonical text of a well-formed unit gives the unit back. -/
theorem read_text (plu : Plu) (wellFormed : plu.WellFormed) : read plu.text = .ok plu := by
  obtain ⟨wide, inRange, same⟩ := Text.int64?_of_int32 plu.version
  have version : versionNumber (toString plu.version.toInt) = .ok plu.version := by
    have fits : Text.int32? wide.toInt = some plu.version := by
      rw [same, Text.int32?, if_pos ⟨plu.version.minValue_le_toInt, plu.version.toInt_le⟩,
        Int32.ofInt_toInt]
    simp only [versionNumber, Text.readInt64?, Text.integer?_toString, Option.bind_some, inRange,
      fits]
  have integer : ∀ (field : PluField) (value : Int64),
      number field (toString value.toInt) = .ok value := fun field value => by
    rw [number, Text.readInt64?_toString]
  rw [read, segments_text plu wellFormed]
  show (do
    let read ← versionNumber (toString plu.version.toInt)
    let productId ← number .productId (toString plu.productId.toInt)
    let variantId ← number .variantId (toString plu.variantId.toInt)
    Except.ok (⟨productId, read, variantId, plu.schedule, plu.round⟩ : Plu)) = .ok plu
  rw [version, integer, integer]
  rfl

end Plu

end Syndication
