import Mathlib.Data.List.TakeDrop
import Syndication.Url.Reader

/-!
# Cutting a text at its marks

Cutting a text at a mark undoes putting the mark between two texts, provided that the mark does not
occur where the cut is looked for: in front of it for the first mark, behind it for the last one.
The port is cut off at the first colon outside brackets, and segments are cut apart at every slash.

Nothing is made up by cutting: the characters of the parts are characters of the whole.
-/

namespace Syndication.Url

variable {mark : Char} {before behind text : List Char}

/-- A text without the mark stays whole. -/
theorem cutAt_of_not_mem (absent : mark ∉ text) : cutAt mark text = (text, none) := by
  induction text with
  | nil => rfl
  | cons character rest inductionHypothesis =>
    rw [List.mem_cons, not_or] at absent
    rw [cutAt, if_neg (Ne.symm absent.1), inductionHypothesis absent.2]

/-- A text is cut at the first mark. -/
theorem cutAt_append (absent : mark ∉ before) (behind : List Char) :
    cutAt mark (before ++ mark :: behind) = (before, some behind) := by
  induction before with
  | nil => rw [List.nil_append, cutAt, if_pos rfl]
  | cons character rest inductionHypothesis =>
    rw [List.mem_cons, not_or] at absent
    rw [List.cons_append, cutAt, if_neg (Ne.symm absent.1), inductionHypothesis absent.2]

/-- The parts in front of a mark and behind it belong to the text. -/
theorem mem_of_cutAt (mark : Char) (text : List Char) {character : Char} :
    (character ∈ (cutAt mark text).1 → character ∈ text) ∧
      ∀ behind ∈ (cutAt mark text).2, character ∈ behind → character ∈ text := by
  induction text with
  | nil => exact ⟨id, nofun⟩
  | cons first rest inductionHypothesis =>
    rw [cutAt]
    split
    · refine ⟨nofun, ?_⟩
      rintro _ ⟨rfl⟩ inRest
      exact .tail _ inRest
    · refine ⟨fun member => ?_, fun behind cut member => ?_⟩
      · rcases List.mem_cons.mp member with rfl | inRest
        · exact .head _
        · exact .tail _ (inductionHypothesis.1 inRest)
      · exact .tail _ (inductionHypothesis.2 behind cut member)

/-- A text without the mark has nothing in front of it. -/
theorem cutAtLast_of_not_mem (absent : mark ∉ text) : cutAtLast mark text = (none, text) := by
  rw [cutAtLast, cutAt_of_not_mem (by simpa using absent)]
  simp

/-- A text is cut at the last mark. -/
theorem cutAtLast_append (before : List Char) (absent : mark ∉ behind) :
    cutAtLast mark (before ++ mark :: behind) = (some before, behind) := by
  have reversed : (before ++ mark :: behind).reverse =
      behind.reverse ++ mark :: before.reverse := by simp
  rw [cutAtLast, reversed, cutAt_append (by simpa using absent)]
  simp

/-- What is behind the last mark belongs to the text. -/
theorem mem_of_cutAtLast (mark : Char) (text : List Char) {character : Char}
    (member : character ∈ (cutAtLast mark text).2) : character ∈ text := by
  have inReverse : character ∈ (cutAt mark text.reverse).1 → character ∈ text.reverse :=
    (mem_of_cutAt mark text.reverse).1
  rw [cutAtLast] at member
  split at member <;> rename_i cut
  all_goals
    rw [cut] at inReverse
    exact List.mem_reverse.mp (inReverse (List.mem_reverse.mp member))

/-- A text without the mark is passed over, whatever is behind it. -/
theorem span_of_not_mem (absent : mark ∉ before) (behind : List Char)
    (ends : ∀ character ∈ behind.head?, character = mark) :
    (before ++ behind).span (fun character => character ≠ mark) = (before, behind) := by
  have kept : ∀ character ∈ before, decide (character ≠ mark) = true := fun character member =>
    decide_eq_true fun same => absent (same ▸ member)
  rw [List.span_eq_takeWhile_dropWhile, List.takeWhile_append_of_pos kept,
    List.dropWhile_append_of_pos kept]
  cases behind with
  | nil => simp
  | cons character rest => simp [ends character rfl]

/-! ## Ports -/

/-- A character that does not start the port belongs to the host. -/
theorem cutPort_cons (inside next : Bool) {character : Char}
    (kept : character ≠ ':' ∨ inside = true)
    (onward : (decide (character = '[') || inside && decide (character ≠ ']')) = next)
    (rest : List Char) :
    cutPort inside (character :: rest) =
      (character :: (cutPort next rest).1, (cutPort next rest).2) := by
  have noPort : ¬ (character = ':' ∧ ¬ inside = true) := fun port =>
    kept.elim (fun other => other port.1) port.2
  rw [cutPort, if_neg noPort, onward]

/-- A host without brackets and colons is cut off whole. -/
theorem cutPort_of_plain (plain : ∀ character ∈ text, character ≠ ':' ∧ character ≠ '[') :
    cutPort false text = (text, none) ∧
      ∀ behind, cutPort false (text ++ ':' :: behind) = (text, some behind) := by
  induction text with
  | nil => exact ⟨rfl, fun _ => rfl⟩
  | cons character rest inductionHypothesis =>
    rw [List.forall_mem_cons] at plain
    obtain ⟨whole, cut⟩ := inductionHypothesis plain.2
    have step := cutPort_cons false false (.inl plain.1.1)
      (by simp [plain.1.2])
    refine ⟨?_, fun behind => ?_⟩
    · rw [step, whole]
    · rw [List.cons_append, step, cut]

/-- Behind an open bracket nothing is cut off before it is closed. -/
theorem cutPort_inside {inner : List Char} (closed : ∀ character ∈ inner, character ≠ ']')
    (rest : List Char) : cutPort true (inner ++ ']' :: rest) =
      (inner ++ ']' :: (cutPort false rest).1, (cutPort false rest).2) := by
  induction inner with
  | nil => rfl
  | cons character inner inductionHypothesis =>
    rw [List.forall_mem_cons] at closed
    rw [List.cons_append, cutPort_cons true true (.inr rfl) (by simp [closed.1]),
      inductionHypothesis closed.2]
    rfl

/-- A host in brackets is cut off whole. -/
theorem cutPort_of_brackets {inner : List Char} (closed : ∀ character ∈ inner, character ≠ ']') :
    cutPort false ('[' :: inner ++ [']']) = ('[' :: inner ++ [']'], none) ∧
      ∀ behind, cutPort false ('[' :: inner ++ [']'] ++ ':' :: behind) =
        ('[' :: inner ++ [']'], some behind) := by
  have opened : ∀ rest, cutPort false ('[' :: inner ++ ']' :: rest) =
      ('[' :: inner ++ ']' :: (cutPort false rest).1, (cutPort false rest).2) := by
    intro rest
    rw [List.cons_append, cutPort_cons false true (.inl (by decide)) rfl, cutPort_inside closed]
    rfl
  refine ⟨opened [], fun behind => ?_⟩
  rw [List.append_assoc]
  exact opened (':' :: behind)

/-- The port belongs to the text. -/
theorem mem_of_cutPort (inside : Bool) (text : List Char) {character : Char} :
    ∀ behind ∈ (cutPort inside text).2, character ∈ behind → character ∈ text := by
  induction text generalizing inside with
  | nil => exact nofun
  | cons first rest inductionHypothesis =>
    rw [cutPort]
    split
    · rintro _ ⟨rfl⟩ inRest
      exact .tail _ inRest
    · intro behind cut member
      exact .tail _ (inductionHypothesis _ behind cut member)

/-! ## Segments -/

/-- The pieces between marks hold characters of the text other than the mark. -/
theorem mem_of_splitOn {mark : Char} {text piece : List Char} (member : piece ∈ text.splitOn mark)
    {character : Char} (inPiece : character ∈ piece) : character ∈ text ∧ character ≠ mark := by
  induction text generalizing piece with
  | nil =>
    rw [List.splitOn_nil, List.mem_singleton] at member
    subst member
    cases inPiece
  | cons first rest inductionHypothesis =>
    rw [List.splitOn_cons_eq_if_modifyHead] at member
    split at member
    · rcases List.mem_cons.mp member with rfl | inRest
      · cases inPiece
      · exact (inductionHypothesis inRest inPiece).imp_left (.tail _)
    · rename_i different
      obtain ⟨head, others, pieces⟩ := List.exists_cons_of_ne_nil (List.splitOn_ne_nil mark rest)
      rw [pieces, List.modifyHead_cons] at member
      rw [pieces] at inductionHypothesis
      rcases List.mem_cons.mp member with rfl | inRest
      · rcases List.mem_cons.mp inPiece with rfl | inHead
        · exact ⟨.head _, by simpa using different⟩
        · exact (inductionHypothesis (.head _) inHead).imp_left (.tail _)
      · exact (inductionHypothesis (.tail _ inRest) inPiece).imp_left (.tail _)

end Syndication.Url
