import Syndication.Proofs.Cache.Resolution
import Syndication.Proofs.Plu.Digest
import Syndication.Settings.Pipeline

/-!
# Codes by digest, from the settings to the resolution

Three places have to agree on what a code is. The settings are refused for a length for which no
text has a code, and for no other; for every other length a code is written off the digest, symbol
by symbol; and what was written is never refused when it is resolved.
-/

namespace Syndication

/-! ## The length that is set -/

namespace PipelineSettings

variable {settings : PipelineSettings} {length : Nat} {condition : Bool}
  {error found : SettingsError}

/-- A condition that must not hold is reported when it holds. -/
theorem problemIf_eq_some_iff :
    problemIf condition error = some found ↔ condition = true ∧ found = error := by
  cases condition <;> simp [problemIf, eq_comm]

/-- No check but that of the length reports a length. -/
theorem mem_problems_iff : some (.invalidCodeLength length) ∈ settings.problems ↔
    (settings.codeLength = 0 ∨ maxCodeLength < settings.codeLength) ∧
      length = settings.codeLength := by
  have retries : ∀ count, retriesProblem? count ≠ some (.invalidCodeLength length) := by
    simp [retriesProblem?, problemIf_eq_some_iff]
  have mapper : mapperRetriesProblem? settings.categories ≠ some (.invalidCodeLength length) := by
    cases settings.categories with
    | remote remote => exact retries remote.retries
    | table table => nofun
  have table : tableProblem? settings.categories ≠ some (.invalidCodeLength length) := by
    cases settings.categories with
    | remote remote => nofun
    | table table => simp [tableProblem?]
  simp [problems, eq_comm (a := some (SettingsError.invalidCodeLength length)),
    problemIf_eq_some_iff, retries, mapper, table]

/-- Settings that listen somewhere are refused for their length exactly when it is out of range. -/
theorem problem?_length_iff (listening : settings.listener.port ≠ 0) :
    settings.problem? = some (.invalidCodeLength settings.codeLength) ↔
      settings.codeLength = 0 ∨ maxCodeLength < settings.codeLength := by
  constructor
  · intro refused
    obtain ⟨problem, member, same⟩ := List.exists_of_findSome?_eq_some refused
    exact (mem_problems_iff.mp ((show problem = _ from same) ▸ member)).1
  · intro outside
    have silent : problemIf (settings.listener.port = 0) .zeroPort = none := by
      simp [problemIf, listening]
    have reported : problemIf (settings.codeLength = 0 || maxCodeLength < settings.codeLength)
        (.invalidCodeLength settings.codeLength) = some (.invalidCodeLength settings.codeLength) :=
      problemIf_eq_some_iff.mpr ⟨by simpa using outside, rfl⟩
    rw [problem?, problems, silent, reported]
    rfl

/-- Settings without a problem have a length in range. -/
theorem length_of_problem?_eq_none (accepted : settings.problem? = none) :
    1 ≤ settings.codeLength ∧ settings.codeLength ≤ maxCodeLength := by
  refine Decidable.byContradiction fun outside => ?_
  have member : some (.invalidCodeLength settings.codeLength) ∈ settings.problems :=
    mem_problems_iff.mpr ⟨by omega, rfl⟩
  exact Option.some_ne_none _ (List.findSome?_eq_none_iff.mp accepted _ member)

end PipelineSettings

/-! ## The code that is written -/

namespace Base32

/-- The symbol at a place is the one that the alphabet has for the five bits there. -/
theorem getElem?_symbolsOf {stream : List Bool} {count place : Nat} (within : place < count) :
    (symbolsOf stream count)[place]? = alphabet[value (window stream place)]? := by
  have small : value (window stream place) < alphabet.length := by
    have short : (window stream place).length ≤ 5 := List.length_take_le 5 _
    calc
      value (window stream place) < 2 ^ (window stream place).length := value_lt _
      _ ≤ 2 ^ 5 := Nat.pow_le_pow_right (by decide) short
      _ = alphabet.length := by decide
  rw [symbolsOf, List.getElem?_map, List.getElem?_range within, List.getElem?_eq_getElem small,
    Option.map_some, symbol, List.getD_eq_getElem _ _ small]

end Base32

variable {text code : String} {length : Nat}

/-- A digest has 256 bits. -/
theorem length_digestBits (text : String) : (digestBits text).length = 256 := by
  rw [digestBits, Base32.length_bits, Sha256.digest_length]

/-- A text is refused for a length exactly when it is out of range, and the length is named. -/
theorem digestCode_error_iff {cause : CodeError} : digestCode text length = .error cause ↔
    (length = 0 ∨ maxCodeLength < length) ∧ cause = .invalidLength length := by
  unfold digestCode
  split
  case isTrue outside => simp [outside, eq_comm]
  case isFalse inside => simp [inside]

/-- A longer code of a text begins with every shorter one. -/
theorem digestCode_prefix {longer : Nat} {extended : String}
    (coded : digestCode text length = .ok code)
    (codedLonger : digestCode text longer = .ok extended) (less : length ≤ longer) :
    code.toList <+: extended.toList := by
  have bounded := digestCode_ok_iff.mp ⟨code, coded⟩
  have boundedLonger := digestCode_ok_iff.mp ⟨extended, codedLonger⟩
  rw [digestCode_eq bounded.1 bounded.2] at coded
  rw [digestCode_eq boundedLonger.1 boundedLonger.2] at codedLonger
  obtain rfl := Except.ok.inj coded
  obtain rfl := Except.ok.inj codedLonger
  rw [String.toList_ofList, String.toList_ofList]
  exact Base32.symbolsOf_prefix _ less

/-- Codes read digests in base 32. A length is refused exactly when it is zero or more than
fifty-one, which are also the lengths that settings are refused for. For every other length there is
a code of that length, each symbol of which is the one that the alphabet has for the value of the
next five bits of the digest, and which is not refused as malformed when it is resolved. Longer
codes begin with the shorter ones. Before each byte of the digest the buffer of the writer holds
exactly the bits that no symbol has taken, and so it does when the byte has been shifted in. -/
theorem codes_read_digests (text : String) :
    (∀ length,
      (∀ cause, digestCode text length = .error cause ↔
        (length = 0 ∨ 51 < length) ∧ cause = .invalidLength length) ∧
      ∀ settings : PipelineSettings, settings.codeLength = length →
        (settings.listener.port ≠ 0 → (settings.problem? = some (.invalidCodeLength length) ↔
          length = 0 ∨ 51 < length)) ∧
        (settings.problem? = none → 1 ≤ length ∧ length ≤ 51)) ∧
    (∀ length, 1 ≤ length → length ≤ 51 → ∃ code,
      digestCode text length = .ok code ∧ code.length = length ∧
      (∀ place < length, code.toList[place]? =
        Base32.alphabet[Base32.value (((digestBits text).drop (5 * place)).take 5)]?) ∧
      ∀ outage cache, ((resolvePlu outage code).runOn cache).1 ≠ .error .invalidCode) ∧
    (∀ shorter longer code extended, shorter ≤ longer → digestCode text shorter = .ok code →
      digestCode text longer = .ok extended → code.toList <+: extended.toList) ∧
    (digestBits text).length = 256 ∧
    ∀ length consumed byte rest writer, 1 ≤ length →
      Sha256.digest text.toUTF8.toList = consumed ++ byte :: rest →
      consumed.foldlM (Base32.Writer.read length) Base32.Writer.empty = .ok writer →
        writer.Rests length (Base32.bits consumed) ∧
        (writer.shift byte).buffer.toNat =
          Base32.value ((Base32.bits (consumed ++ [byte])).drop (5 * writer.symbols.length)) := by
  refine ⟨fun length => ⟨fun cause => digestCode_error_iff, ?_⟩, fun length positive bounded => ?_,
    fun shorter longer code extended less coded codedLonger => digestCode_prefix coded codedLonger
      less, length_digestBits text, fun length consumed byte rest writer positive _ reached => ?_⟩
  · rintro settings rfl
    exact ⟨PipelineSettings.problem?_length_iff, PipelineSettings.length_of_problem?_eq_none⟩
  · have coded : digestCode text length =
        .ok (String.ofList (Base32.symbolsOf (digestBits text) length)) :=
      digestCode_eq positive bounded
    refine ⟨_, coded, ?_, fun place within => ?_, fun outage cache => ?_⟩
    · rw [String.length_ofList, Base32.length_symbolsOf]
    · rw [String.toList_ofList, Base32.getElem?_symbolsOf within, Base32.window]
    · exact resolvePlu_ne_invalidCode (isWellFormedCode_of_digestCode coded)
  · have rests : writer.Rests length (Base32.bits consumed) :=
      ((Base32.Writer.rests_empty positive).readAll consumed).1 writer reached
    refine ⟨rests, ?_⟩
    rw [Base32.bits, List.flatMap_append, List.flatMap_singleton]
    exact (rests.shift byte).2

/-- The empty text has a code of four symbols. The first of them takes five bits of the first byte
of the digest, and the three that are left stand in front of the second byte. -/
theorem empty_text_coded : (∃ code, digestCode "" 4 = .ok code ∧ code.length = 4 ∧
      code.toList[3]? = Base32.alphabet[Base32.value (((digestBits "").drop 15).take 5)]?) ∧
    Base32.value (((digestBits "").drop 15).take 5) = 12 ∧
    ((Base32.Writer.mk ['W'] 3 3).shift 0xb0).buffer.toNat =
      Base32.value ((Base32.bits [0xe3, 0xb0]).drop 5) := by
  obtain ⟨_, coded, _, _, buffered⟩ := codes_read_digests ""
  obtain ⟨code, written, long, read, _⟩ := coded 4 (by decide) (by decide)
  have digest : Sha256.digest "".toUTF8.toList =
      [0xe3] ++ 0xb0 :: (Sha256.digest "".toUTF8.toList).drop 2 := by decide +kernel
  refine ⟨⟨code, written, long, read 3 (by decide)⟩, by decide +kernel, ?_⟩
  exact (buffered 4 [0xe3] 0xb0 _ ⟨['W'], 3, 3⟩ (by decide) digest (by rfl)).2

end Syndication
