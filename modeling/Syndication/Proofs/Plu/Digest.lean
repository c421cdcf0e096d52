import Mathlib.Data.String.Basic
import Syndication.Plu.Code
import Syndication.Proofs.Digest.BitStream

/-!
# Codes by digest

A digest is a stream of 256 bits and has room for fifty-one symbols. A code is made of as many of
them as were asked for, so it has the length asked for and is a text that resolution accepts. For
the lengths that the settings allow every text has a code.
-/

namespace Syndication

namespace Base32

/-- Every group has a symbol. -/
theorem isSymbol_symbol (group : Nat) : isSymbol (symbol group) = true := by
  unfold isSymbol symbol
  rw [List.contains_iff_mem, List.getD_eq_getElem?_getD]
  cases found : alphabet[group]? with
  | none => decide
  | some character => exact List.mem_of_getElem? found

/-- Symbols take one byte. -/
theorem utf8Size_of_isSymbol {character : Char} (symbol : isSymbol character = true) :
    character.utf8Size = 1 := by
  have each : alphabet.all (fun character => character.utf8Size == 1) = true := by decide
  exact beq_iff_eq.mp (List.all_eq_true.mp each character (List.contains_iff_mem.mp symbol))

/-- The symbols of a stream are symbols. -/
theorem isSymbol_of_mem_symbolsOf {stream : List Bool} {count : Nat} :
    ∀ character ∈ symbolsOf stream count, isSymbol character = true := by
  intro character member
  obtain ⟨place, _, rfl⟩ := List.mem_map.mp member
  exact isSymbol_symbol _

end Base32

/-- Texts made of single-byte characters have as many bytes as characters. -/
theorem utf8ByteSize_ofList_of_symbols {characters : List Char}
    (symbols : ∀ character ∈ characters, Base32.isSymbol character = true) :
    (String.ofList characters).utf8ByteSize = characters.length := by
  rw [String.utf8ByteSize_ofList]
  induction characters with
  | nil => rfl
  | cons character rest inductionHypothesis =>
    rw [List.forall_mem_cons] at symbols
    rw [String.utf8Len_cons, inductionHypothesis symbols.2,
      Base32.utf8Size_of_isSymbol symbols.1, List.length_cons]

/-- A text has a code by its digest exactly for the lengths from one to fifty-one. -/
theorem digestCode_ok_iff {text : String} {length : Nat} :
    (∃ code, digestCode text length = .ok code) ↔ 1 ≤ length ∧ length ≤ maxCodeLength := by
  unfold digestCode
  split
  case isTrue outside => simp only [reduceCtorEq, exists_false, false_iff]; omega
  case isFalse inside => simp only [Except.ok.injEq, exists_eq', true_iff]; omega

/-- The bits of a text's digest. -/
def digestBits (text : String) : List Bool := Base32.bits (Sha256.digest text.toUTF8.toList)

/-- For these lengths a text is coded by the first symbols of its digest. -/
theorem digestCode_eq {text : String} {length : Nat} (positive : 1 ≤ length)
    (bounded : length ≤ maxCodeLength) :
    digestCode text length = .ok (String.ofList (Base32.symbolsOf (digestBits text) length)) := by
  have room : maxCodeLength = 51 := rfl
  have filled : min length (8 * 32 / 5) = length := by omega
  rw [digestCode, if_neg (by omega)]
  show Except.ok (String.ofList (Base32.encode length (Sha256.digest text.toUTF8.toList))) = _
  rw [Base32.encode_eq positive, Sha256.digest_length, filled, digestBits]

/-- A code by digest is accepted by resolution: it has between one and fifty-one symbols. -/
theorem isWellFormedCode_of_digestCode {text code : String} {length : Nat}
    (coded : digestCode text length = .ok code) : isWellFormedCode code = true := by
  have bounded := digestCode_ok_iff.mp ⟨code, coded⟩
  rw [digestCode_eq bounded.1 bounded.2] at coded
  obtain rfl := Except.ok.inj coded
  have symbols : ∀ character ∈ Base32.symbolsOf (digestBits text) length,
      Base32.isSymbol character = true := Base32.isSymbol_of_mem_symbolsOf
  have size := Base32.length_symbolsOf (digestBits text) length
  simp only [isWellFormedCode, Bool.and_eq_true, Bool.not_eq_true', decide_eq_true_eq,
    utf8ByteSize_ofList_of_symbols symbols, size, String.toList_ofList, List.all_eq_true]
  refine ⟨⟨?_, bounded.2⟩, symbols⟩
  rw [← Bool.not_eq_true, String.isEmpty_iff, ← String.utf8ByteSize_eq_zero_iff,
    utf8ByteSize_ofList_of_symbols symbols, size]
  omega

end Syndication
