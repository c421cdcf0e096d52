import Syndication.Proofs.Plu.Canonical
import Syndication.Proofs.Text.Literal

/-!
# The grammar of canonical texts

A text is cut at its delimiters, and only one with four of them can name a unit. Its five segments
are its `Spelling`: three literals, the second of which has to fit a shorter word than the others,
and two parts that are taken as they are. The first literal that is out of order is named, the
version before the product and the variant.

A unit has many spellings. What is read can be made from its parts, and it is written again by the
spelling whose literals are plain.
-/

namespace Syndication.Plu

open Text

/-- The five segments of a text, in order. None of them has the delimiter. -/
structure Spelling where
  productId : String
  version : String
  variantId : String
  schedule : String
  round : String
  free : ∀ segment ∈ [productId, version, variantId, schedule, round],
    pluDelimiter ∉ segment.toList

/-- The text that has these segments. -/
def Spelling.text (spelling : Spelling) : String :=
  spelling.productId ++ "|" ++ spelling.version ++ "|" ++ spelling.variantId ++ "|" ++
    spelling.schedule ++ "|" ++ spelling.round

variable {text segment : String} {spelling : Spelling} {plu : Plu} {field : PluField}

/-! ## Cutting a text -/

/-- A text has one segment more than delimiters.

Induct over the characters: a delimiter opens a segment, and any other character joins the first. -/
theorem length_segments (text : String) :
    (segments text).length = text.toList.count pluDelimiter + 1 := by
  rw [segments, List.length_map]
  induction text.toList with
  | nil => rfl
  | cons character rest inductionHypothesis =>
    rw [List.splitOn_cons_eq_if_modifyHead, List.count_cons]
    cases character == pluDelimiter <;> simp [inductionHypothesis]

/-- At a first delimiter a text can be cut in two. -/
theorem exists_cut {characters : List Char} {more : Nat}
    (counted : characters.count pluDelimiter = more + 1) : ∃ segment rest,
      characters = segment ++ pluDelimiter :: rest ∧ pluDelimiter ∉ segment ∧
        rest.count pluDelimiter = more := by
  have member : pluDelimiter ∈ characters := List.count_pos_iff.mp (by omega)
  obtain ⟨segment, rest, rfl, free⟩ := List.eq_append_cons_of_mem member
  refine ⟨segment, rest, rfl, free, ?_⟩
  rw [List.count_append, List.count_eq_zero_of_not_mem free, List.count_cons_self] at counted
  omega

/-- A text with four delimiters has a spelling. -/
theorem exists_spelling (counted : text.toList.count pluDelimiter = 4) :
    ∃ spelling : Spelling, spelling.text = text := by
  obtain ⟨productId, afterProduct, cutProduct, freeProduct, three⟩ := exists_cut counted
  obtain ⟨version, afterVersion, cutVersion, freeVersion, two⟩ := exists_cut three
  obtain ⟨variantId, afterVariant, cutVariant, freeVariant, one⟩ := exists_cut two
  obtain ⟨schedule, round, cutSchedule, freeSchedule, none⟩ := exists_cut one
  have freeRound : pluDelimiter ∉ round := List.count_eq_zero.mp none
  refine ⟨⟨.ofList productId, .ofList version, .ofList variantId, .ofList schedule, .ofList round,
    ?_⟩, ?_⟩
  · simp [freeProduct, freeVersion, freeVariant, freeSchedule, freeRound]
  · apply String.toList_injective
    rw [cutProduct, cutVersion, cutVariant, cutSchedule]
    simp [Spelling.text, String.toList_append, pluDelimiter]

/-- The segments of a spelled text are those of the spelling. -/
theorem segments_spelling (spelling : Spelling) : segments spelling.text =
    [spelling.productId, spelling.version, spelling.variantId, spelling.schedule,
      spelling.round] := by
  have free := spelling.free
  simp only [List.forall_mem_cons] at free
  obtain ⟨freeProduct, freeVersion, freeVariant, freeSchedule, freeRound, _⟩ := free
  have parts : spelling.text.toList =
      spelling.productId.toList ++ pluDelimiter :: (spelling.version.toList ++ pluDelimiter ::
        (spelling.variantId.toList ++ pluDelimiter ::
          (spelling.schedule.toList ++ pluDelimiter :: spelling.round.toList))) := by
    simp [Spelling.text, String.toList_append, pluDelimiter]
  rw [segments, parts, List.splitOn_append_cons_self_of_not_mem freeProduct,
    List.splitOn_append_cons_self_of_not_mem freeVersion,
    List.splitOn_append_cons_self_of_not_mem freeVariant,
    List.splitOn_append_cons_self_of_not_mem freeSchedule, List.splitOn_eq_singleton freeRound]
  simp only [List.map_cons, List.map_nil, String.ofList_toList]

/-- A text that has not five segments is refused for their number. -/
theorem read_of_count_ne (counted : text.toList.count pluDelimiter ≠ 4) :
    read text = .error (.segmentCount (text.toList.count pluDelimiter + 1)) := by
  rw [← length_segments]
  have uneven : (segments text).length ≠ 5 := by
    rw [length_segments]
    omega
  rw [read]
  split
  case h_1 five =>
    rw [five] at uneven
    exact absurd rfl uneven
  case h_2 => rfl

/-! ## Reading the literals -/

/-- A number is read from its literals. -/
theorem number_ok_iff {word : Int64} :
    number field segment = .ok word ↔ Denotes segment.toList word.toInt := by
  rw [number, ← readInt64?_eq_some_iff]
  cases readInt64? segment <;> simp

/-- Some number is read from the literals of words of 64 bits. -/
theorem exists_number_iff : (∃ word, number field segment = .ok word) ↔ IsInt64Literal segment := by
  simp only [number_ok_iff, ← readInt64?_eq_some_iff, exists_readInt64?_iff]

/-- What is no literal of a word of 64 bits is refused as a number. -/
theorem number_error_iff {cause : PluError} : number field segment = .error cause ↔
    ¬IsInt64Literal segment ∧ cause = .invalidNumber field segment := by
  rw [← exists_number_iff, number]
  cases readInt64? segment <;> simp [eq_comm]

/-- A version is read from its literals: what fits the shorter word fits the longer one as well. -/
theorem versionNumber_ok_iff {word : Int32} :
    versionNumber segment = .ok word ↔ Denotes segment.toList word.toInt := by
  have through : ((readInt64? segment).bind fun value => int32? value.toInt) = some word ↔
      Denotes segment.toList word.toInt := by
    simp only [Option.bind_eq_some_iff, readInt64?_eq_some_iff, int32?_eq_some_iff]
    constructor
    · rintro ⟨value, denotes, same⟩
      rwa [← same] at denotes
    · intro denotes
      obtain ⟨wide, _, same⟩ := int64?_of_int32 word
      exact ⟨wide, same.symm ▸ denotes, same.symm⟩
  rw [versionNumber, ← through]
  cases (readInt64? segment).bind fun value => int32? value.toInt <;> simp

/-- Some version is read from the literals of words of 32 bits. -/
theorem exists_versionNumber_iff :
    (∃ word, versionNumber segment = .ok word) ↔ IsInt32Literal segment := by
  simp only [versionNumber_ok_iff]
  constructor
  · rintro ⟨word, denotes⟩
    exact ⟨_, denotes, word.minValue_le_toInt, word.toInt_le⟩
  · rintro ⟨value, denotes, lower, upper⟩
    refine ⟨Int32.ofInt value, ?_⟩
    rwa [Int32.toInt_ofInt_of_le lower (Int.lt_add_one_of_le upper)]

/-- What is no literal of a word of 32 bits is refused as a version. -/
theorem versionNumber_error_iff {cause : PluError} : versionNumber segment = .error cause ↔
    ¬IsInt32Literal segment ∧ cause = .invalidNumber .version segment := by
  rw [← exists_versionNumber_iff, versionNumber]
  cases (readInt64? segment).bind fun value => int32? value.toInt <;> simp [eq_comm]

/-! ## Reading a spelled text -/

/-- Every literal of the spelling is in order. -/
structure Spelling.InRange (spelling : Spelling) : Prop where
  version : IsInt32Literal spelling.version
  productId : IsInt64Literal spelling.productId
  variantId : IsInt64Literal spelling.variantId

/-- The first literal of a spelling that is out of order, in the order in which they are read. -/
inductive Spelling.FirstOffence (spelling : Spelling) : PluError → Prop
  | version (invalid : ¬IsInt32Literal spelling.version) :
      FirstOffence spelling (.invalidNumber .version spelling.version)
  | productId (version : IsInt32Literal spelling.version)
      (invalid : ¬IsInt64Literal spelling.productId) :
      FirstOffence spelling (.invalidNumber .productId spelling.productId)
  | variantId (version : IsInt32Literal spelling.version)
      (productId : IsInt64Literal spelling.productId)
      (invalid : ¬IsInt64Literal spelling.variantId) :
      FirstOffence spelling (.invalidNumber .variantId spelling.variantId)

/-- A spelling is one of a unit: its literals stand for the unit's numbers, and the other two
segments are the unit's. -/
structure Spelling.Spells (spelling : Spelling) (plu : Plu) : Prop where
  productId : Denotes spelling.productId.toList plu.productId.toInt
  version : Denotes spelling.version.toList plu.version.toInt
  variantId : Denotes spelling.variantId.toList plu.variantId.toInt
  schedule : plu.schedule = spelling.schedule
  round : plu.round = spelling.round

/-- None of the three literals has anything that could be left out. -/
structure Spelling.Plain (spelling : Spelling) : Prop where
  productId : IsPlain spelling.productId.toList
  version : IsPlain spelling.version.toList
  variantId : IsPlain spelling.variantId.toList

/-- A spelled text is read literal by literal, the version first. -/
theorem read_spelling (spelling : Spelling) : read spelling.text = (do
    let version ← versionNumber spelling.version
    let productId ← number .productId spelling.productId
    let variantId ← number .variantId spelling.variantId
    .ok ⟨productId, version, variantId, spelling.schedule, spelling.round⟩) := by
  rw [read, segments_spelling]

/-- A spelled text is read as the unit that it spells. -/
theorem read_spelling_ok_iff : read spelling.text = .ok plu ↔ spelling.Spells plu := by
  rw [read_spelling]
  simp only [except_bind_ok_iff, versionNumber_ok_iff, number_ok_iff, Except.ok.injEq]
  constructor
  · rintro ⟨version, versionRead, productId, productRead, variantId, variantRead, rfl⟩
    exact ⟨productRead, versionRead, variantRead, rfl, rfl⟩
  · intro spells
    refine ⟨_, spells.version, _, spells.productId, _, spells.variantId, ?_⟩
    rw [← spells.schedule, ← spells.round]

/-- A spelled text is read when its literals are in order. -/
theorem exists_read_spelling_iff :
    (∃ plu, read spelling.text = .ok plu) ↔ spelling.InRange := by
  simp only [read_spelling_ok_iff]
  constructor
  · rintro ⟨plu, spells⟩
    exact ⟨⟨_, spells.version, plu.version.minValue_le_toInt, plu.version.toInt_le⟩,
      ⟨_, spells.productId, plu.productId.minValue_le_toInt, plu.productId.toInt_le⟩,
      ⟨_, spells.variantId, plu.variantId.minValue_le_toInt, plu.variantId.toInt_le⟩⟩
  · intro inRange
    obtain ⟨version, versionRead⟩ := exists_versionNumber_iff.mpr inRange.version
    obtain ⟨productId, productRead⟩ := exists_readInt64?_iff.mpr inRange.productId
    obtain ⟨variantId, variantRead⟩ := exists_readInt64?_iff.mpr inRange.variantId
    exact ⟨⟨productId, version, variantId, spelling.schedule, spelling.round⟩,
      readInt64?_eq_some_iff.mp productRead, versionNumber_ok_iff.mp versionRead,
      readInt64?_eq_some_iff.mp variantRead, rfl, rfl⟩

/-- A spelled text is refused for its first literal that is out of order. -/
theorem read_spelling_error_iff {cause : PluError} :
    read spelling.text = .error cause ↔ spelling.FirstOffence cause := by
  rw [read_spelling]
  simp only [except_bind_error_iff, versionNumber_error_iff, number_error_iff]
  constructor
  · rintro (⟨invalid, rfl⟩ | ⟨_, versionRead, ⟨invalid, rfl⟩ | ⟨_, productRead, refused⟩⟩)
    · exact .version invalid
    · exact .productId (exists_versionNumber_iff.mp ⟨_, versionRead⟩) invalid
    · rcases refused with ⟨invalid, rfl⟩ | ⟨_, _, accepted⟩
      · exact .variantId (exists_versionNumber_iff.mp ⟨_, versionRead⟩)
          (exists_number_iff.mp ⟨_, productRead⟩) invalid
      · cases accepted
  · intro offence
    cases offence with
    | version invalid => exact Or.inl ⟨invalid, rfl⟩
    | productId version invalid =>
      obtain ⟨_, versionRead⟩ := exists_versionNumber_iff.mpr version
      exact Or.inr ⟨_, versionRead, Or.inl ⟨invalid, rfl⟩⟩
    | variantId version productId invalid =>
      obtain ⟨_, versionRead⟩ := exists_versionNumber_iff.mpr version
      obtain ⟨_, productRead⟩ := exists_number_iff.mpr productId
      exact Or.inr ⟨_, versionRead, Or.inr ⟨_, productRead, Or.inl ⟨invalid, rfl⟩⟩⟩

/-! ## Writing what was read -/

/-- A unit that has a spelling is well-formed. -/
theorem Spelling.Spells.wellFormed (spells : spelling.Spells plu) : plu.WellFormed := by
  have free := spelling.free
  simp only [List.forall_mem_cons] at free
  obtain ⟨_, _, _, freeSchedule, freeRound, _⟩ := free
  constructor
  · rw [spells.schedule]
    simpa [hasDelimiter] using freeSchedule
  · rw [spells.round]
    simpa [hasDelimiter] using freeRound

/-- A well-formed unit can be made from its parts. -/
theorem WellFormed.ofParts_self (wellFormed : plu.WellFormed) :
    ofParts plu.productId plu.version plu.variantId (some plu.schedule) (some plu.round) =
      .ok plu := (make_ok_iff plu plu).mpr ⟨wellFormed, rfl⟩

/-- A unit is written by the spelling whose literals are plain. -/
theorem Spelling.Spells.text_eq_iff (spells : spelling.Spells plu) :
    plu.text = spelling.text ↔ spelling.Plain := by
  have writes : ∀ {literal : String} {value : Int}, Denotes literal.toList value →
      (toString value = literal ↔ IsPlain literal.toList) := fun denotes => by
    rw [← denotes.eq_toString_iff, ← String.toList_inj]
    exact eq_comm
  constructor
  · intro same
    have parts := congrArg segments same
    rw [segments_text plu spells.wellFormed, segments_spelling] at parts
    injection parts with productId parts
    injection parts with version parts
    injection parts with variantId _
    exact ⟨(writes spells.productId).mp productId, (writes spells.version).mp version,
      (writes spells.variantId).mp variantId⟩
  · intro plain
    rw [Plu.text, Spelling.text, (writes spells.productId).mpr plain.productId,
      (writes spells.version).mpr plain.version, (writes spells.variantId).mpr plain.variantId,
      spells.schedule, spells.round]

/-- Reading accepts the grammar of canonical texts and nothing else. A text is refused for the
number of its segments exactly when it has not four delimiters, and otherwise it has a spelling. A
spelled text is read exactly when its literals are in order, as the unit that it spells; if they are
not, the first literal out of order is named. The text is what is written for the unit exactly when
its literals are plain. Every unit that was read can be made from its parts, and is read again from
what is written for it. -/
theorem reading_accepts_grammar (text : String) :
    (∀ found, read text = .error (.segmentCount found) ↔
      text.toList.count pluDelimiter + 1 = found ∧ found ≠ 5) ∧
    (text.toList.count pluDelimiter = 4 ↔ ∃ spelling : Spelling, spelling.text = text) ∧
    (∀ spelling : Spelling, spelling.text = text →
      ((∃ plu, read text = .ok plu) ↔ spelling.InRange) ∧
      (∀ plu, read text = .ok plu ↔ spelling.Spells plu) ∧
      (∀ cause, read text = .error cause ↔ spelling.FirstOffence cause) ∧
      ∀ plu, read text = .ok plu → (plu.text = text ↔ spelling.Plain)) ∧
    ∀ plu, read text = .ok plu →
      ofParts plu.productId plu.version plu.variantId (some plu.schedule) (some plu.round) =
        .ok plu ∧ read plu.text = .ok plu := by
  have four : text.toList.count pluDelimiter = 4 ↔ ∃ spelling : Spelling, spelling.text = text := by
    refine ⟨exists_spelling, ?_⟩
    rintro ⟨spelling, rfl⟩
    have five := length_segments spelling.text
    rw [segments_spelling] at five
    exact (Nat.succ.inj five).symm
  refine ⟨fun found => ?_, four, ?_, fun plu accepted => ?_⟩
  · by_cases counted : text.toList.count pluDelimiter = 4
    · obtain ⟨spelling, rfl⟩ := exists_spelling counted
      rw [read_spelling_error_iff]
      refine iff_of_false nofun ?_
      omega
    · rw [read_of_count_ne counted, Except.error.injEq, PluError.segmentCount.injEq]
      omega
  · rintro spelling rfl
    refine ⟨exists_read_spelling_iff, fun plu => read_spelling_ok_iff,
      fun cause => read_spelling_error_iff, fun plu accepted => ?_⟩
    exact (read_spelling_ok_iff.mp accepted).text_eq_iff
  · by_cases counted : text.toList.count pluDelimiter = 4
    · obtain ⟨spelling, rfl⟩ := exists_spelling counted
      have wellFormed := (read_spelling_ok_iff.mp accepted).wellFormed
      exact ⟨wellFormed.ofParts_self, read_text plu wellFormed⟩
    · rw [read_of_count_ne counted] at accepted
      cases accepted

/-- A spelling with a plus sign, a leading zero and a negative zero. -/
def superfluous : Spelling := ⟨"+7", "01", "-0", "2025-01-01", "", by decide +kernel⟩

/-- Such a text is read, and another is written for what it is read as. -/
theorem superfluous_read : superfluous.text = "+7|01|-0|2025-01-01|" ∧ ∃ plu : Plu,
    read superfluous.text = .ok plu ∧ superfluous.InRange ∧ ¬superfluous.Plain ∧
      plu.text = "7|1|0|2025-01-01|" ∧ read plu.text = .ok plu := by
  have accepted : read superfluous.text = .ok ⟨7, 1, 0, "2025-01-01", ""⟩ := by rfl
  have written : (⟨7, 1, 0, "2025-01-01", ""⟩ : Plu).text = "7|1|0|2025-01-01|" := by
    decide +kernel
  obtain ⟨_, _, spelled, made⟩ := reading_accepts_grammar superfluous.text
  obtain ⟨readable, _, _, plain⟩ := spelled superfluous rfl
  refine ⟨by decide +kernel, _, accepted, readable.mp ⟨_, accepted⟩, ?_, written,
    (made _ accepted).2⟩
  rw [← plain _ accepted, written]
  decide +kernel

end Syndication.Plu
