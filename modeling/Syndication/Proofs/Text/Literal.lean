import Syndication.Proofs.Plu.RoundTrip

/-!
# Literals of integers

A literal is an optional sign in front of at least one digit, and `Denotes` says which integer it
stands for. Reading gives an integer exactly to the literals of it.

Among the literals of an integer one is written by `toString`. It is told from the others by what it
does not have: a plus sign, a leading zero that could be left out, or a minus sign in front of zero.
-/

namespace Syndication.Text

/-- A run of decimal digits. -/
structure IsRun (characters : List Char) : Prop where
  nonempty : characters ≠ []
  digits : ∀ character ∈ characters, character.isDigit = true

/-- What a literal stands for. -/
inductive Denotes : List Char → Int → Prop
  | unsigned {digits : List Char} (run : IsRun digits) :
      Denotes digits (Nat.ofDigitChars 10 digits 0)
  | plus {digits : List Char} (run : IsRun digits) :
      Denotes ('+' :: digits) (Nat.ofDigitChars 10 digits 0)
  | minus {digits : List Char} (run : IsRun digits) :
      Denotes ('-' :: digits) (-(Nat.ofDigitChars 10 digits 0))

variable {characters digits rest : List Char} {character first : Char} {value : Int}

/-! ## Reading -/

/-- A character is read as a digit when it is one. -/
theorem digit?_isSome : (digit? character).isSome = character.isDigit := by
  have bounds : ('0' ≤ character ∧ character ≤ '9') ↔ character.isDigit = true := by
    rw [Char.isDigit_iff_toNat, Char.le_def, Char.le_def, UInt32.le_iff_toNat_le,
      UInt32.le_iff_toNat_le]
    rfl
  rw [digit?, Bool.eq_iff_iff, ← bounds]
  split <;> simp_all

/-- Reading on stops at a character that is no digit. -/
theorem digits_of_naturalFrom? {value result : Nat}
    (read : naturalFrom? value characters = some result) :
    ∀ character ∈ characters, character.isDigit = true := by
  induction characters generalizing value with
  | nil => nofun
  | cons character rest inductionHypothesis =>
    rw [naturalFrom?] at read
    cases found : digit? character with
    | none =>
      rw [found] at read
      cases read
    | some digit =>
      rw [found] at read
      rw [List.forall_mem_cons, ← digit?_isSome, found]
      exact ⟨rfl, inductionHypothesis read⟩

/-- A natural number is read from a run of digits, as which it counts. -/
theorem natural?_eq_some_iff {value : Nat} : natural? characters = some value ↔
    IsRun characters ∧ Nat.ofDigitChars 10 characters 0 = value := by
  cases characters with
  | nil => exact iff_of_false nofun fun held => held.1.nonempty rfl
  | cons first rest =>
    rw [natural?]
    · constructor
      · intro read
        have digits := digits_of_naturalFrom? read
        rw [naturalFrom?_digits 0 _ digits] at read
        exact ⟨⟨List.cons_ne_nil first rest, digits⟩, Option.some.inj read⟩
      · rintro ⟨run, rfl⟩
        exact naturalFrom?_digits 0 _ run.digits
    · exact List.cons_ne_nil first rest

/-- Neither sign is a digit. -/
theorem IsRun.head_isDigit (run : IsRun (first :: rest)) : first.isDigit = true :=
  run.digits first List.mem_cons_self

/-- An integer is read from its literals. -/
theorem integer?_eq_some_iff : integer? characters = some value ↔ Denotes characters value := by
  constructor
  · intro read
    unfold integer? at read
    split at read
    case h_1 digits =>
      cases found : natural? digits with
      | none =>
        rw [found] at read
        cases read
      | some magnitude =>
        rw [found] at read
        cases read
        obtain ⟨run, rfl⟩ := natural?_eq_some_iff.mp found
        exact .minus run
    case h_2 digits =>
      obtain ⟨magnitude, found, rfl⟩ := Option.map_eq_some_iff.mp read
      obtain ⟨run, rfl⟩ := natural?_eq_some_iff.mp found
      exact .plus run
    case h_3 =>
      obtain ⟨magnitude, found, rfl⟩ := Option.map_eq_some_iff.mp read
      obtain ⟨run, rfl⟩ := natural?_eq_some_iff.mp found
      exact .unsigned run
  · intro denotes
    cases denotes with
    | unsigned run =>
      cases characters with
      | nil => exact absurd rfl run.nonempty
      | cons first rest =>
        rw [integer?_of_digit first rest run.head_isDigit, natural?_eq_some_iff.mpr ⟨run, rfl⟩]
        rfl
    | plus run => rw [integer?, natural?_eq_some_iff.mpr ⟨run, rfl⟩]; rfl
    | minus run => rw [integer?, natural?_eq_some_iff.mpr ⟨run, rfl⟩]; rfl

/-- A literal stands for one integer. -/
theorem Denotes.unique {other : Int} (denotes : Denotes characters value)
    (denotesThen : Denotes characters other) : value = other := by
  rw [← integer?_eq_some_iff] at denotes denotesThen
  exact Option.some.inj (denotes.symm.trans denotesThen)

/-! ## Literals in range -/

/-- A literal of an integer of 64 bits. -/
def IsInt64Literal (text : String) : Prop :=
  ∃ value : Int, Denotes text.toList value ∧
    Int64.minValue.toInt ≤ value ∧ value ≤ Int64.maxValue.toInt

/-- A literal of an integer of 32 bits. -/
def IsInt32Literal (text : String) : Prop :=
  ∃ value : Int, Denotes text.toList value ∧
    Int32.minValue.toInt ≤ value ∧ value ≤ Int32.maxValue.toInt

/-- An integer is a word of 64 bits when it is in range. -/
theorem int64?_eq_some_iff {word : Int64} : int64? value = some word ↔ word.toInt = value := by
  unfold int64?
  constructor
  · intro fits
    split at fits
    case isTrue inRange =>
      cases fits
      exact Int64.toInt_ofInt_of_le inRange.1 (Int.lt_add_one_of_le inRange.2)
    case isFalse => cases fits
  · rintro rfl
    rw [if_pos ⟨word.minValue_le_toInt, word.toInt_le⟩, Int64.ofInt_toInt]

/-- An integer is a word of 32 bits when it is in range. -/
theorem int32?_eq_some_iff {word : Int32} : int32? value = some word ↔ word.toInt = value := by
  unfold int32?
  constructor
  · intro fits
    split at fits
    case isTrue inRange =>
      cases fits
      exact Int32.toInt_ofInt_of_le inRange.1 (Int.lt_add_one_of_le inRange.2)
    case isFalse => cases fits
  · rintro rfl
    rw [if_pos ⟨word.minValue_le_toInt, word.toInt_le⟩, Int32.ofInt_toInt]

/-- A word of 64 bits is read from its literals. -/
theorem readInt64?_eq_some_iff {text : String} {word : Int64} :
    readInt64? text = some word ↔ Denotes text.toList word.toInt := by
  simp only [readInt64?, Option.bind_eq_some_iff, integer?_eq_some_iff, int64?_eq_some_iff]
  constructor
  · rintro ⟨_, denotes, rfl⟩
    exact denotes
  · intro denotes
    exact ⟨_, denotes, rfl⟩

/-- Some word of 64 bits is read from the literals in range. -/
theorem exists_readInt64?_iff {text : String} :
    (∃ word, readInt64? text = some word) ↔ IsInt64Literal text := by
  simp only [readInt64?_eq_some_iff]
  constructor
  · rintro ⟨word, denotes⟩
    exact ⟨_, denotes, word.minValue_le_toInt, word.toInt_le⟩
  · rintro ⟨value, denotes, lower, upper⟩
    refine ⟨Int64.ofInt value, ?_⟩
    rwa [Int64.toInt_ofInt_of_le lower (Int.lt_add_one_of_le upper)]

/-! ## The literal that is written -/

/-- The literal begins with a plus sign. -/
def HasPlus (characters : List Char) : Prop := characters.head? = some '+'

/-- Behind the sign, if there is one, the literal begins with a zero that other digits follow. -/
def HasLeadingZero (characters : List Char) : Prop :=
  ∃ sign rest, (sign = [] ∨ sign = ['+'] ∨ sign = ['-']) ∧ rest ≠ [] ∧
    characters = sign ++ '0' :: rest

/-- The literal begins with a minus sign and stands for zero. -/
def IsNegativeZero (characters : List Char) : Prop :=
  characters.head? = some '-' ∧ Denotes characters 0

/-- The literal has nothing that could be left out. -/
def IsPlain (characters : List Char) : Prop :=
  ¬HasPlus characters ∧ ¬HasLeadingZero characters ∧ ¬IsNegativeZero characters

/-- A digit is written by itself. -/
theorem toDigits_of_isDigit (digit : character.isDigit = true) :
    Nat.toDigits 10 (character.toNat - '0'.toNat) = [character] := by
  have inRange := Char.isDigit_iff_toNat.mp digit
  have zero : '0'.toNat = 48 := rfl
  have nine : '9'.toNat = 57 := rfl
  have small : character.toNat - '0'.toNat < 10 := by omega
  rw [Nat.toDigits_of_lt_base small]
  congr 1
  apply Char.toNat_inj.mp
  rw [Nat.toNat_digitChar_of_lt_ten small]
  omega

/-- Digits behind a positive number are written behind it. -/
theorem toDigits_append_digits {value : Nat} (positive : 0 < value)
    (decimal : ∀ character ∈ digits, character.isDigit = true) :
    Nat.toDigits 10 value ++ digits = Nat.toDigits 10 (Nat.ofDigitChars 10 digits value) := by
  induction digits generalizing value with
  | nil => simp
  | cons first rest inductionHypothesis =>
    rw [List.forall_mem_cons] at decimal
    have small : first.toNat - '0'.toNat < 10 := by
      have inRange := (Char.isDigit_iff_toNat.mp decimal.1).2
      have zero : '0'.toNat = 48 := rfl
      have nine : '9'.toNat = 57 := rfl
      omega
    have next : 0 < 10 * value + (first.toNat - '0'.toNat) := by omega
    calc
      Nat.toDigits 10 value ++ first :: rest
        = Nat.toDigits 10 value ++ Nat.toDigits 10 (first.toNat - '0'.toNat) ++ rest := by
          rw [toDigits_of_isDigit decimal.1, List.append_assoc, List.singleton_append]
      _ = Nat.toDigits 10 (10 * value + (first.toNat - '0'.toNat)) ++ rest := by
          rw [Nat.toDigits_append_toDigits (by decide) positive small]
      _ = Nat.toDigits 10 (Nat.ofDigitChars 10 (first :: rest) value) := by
          rw [inductionHypothesis next decimal.2, Nat.ofDigitChars_cons]

/-- A positive number is not written with a zero in front. -/
theorem head_toDigits_ne_zero {value : Nat} (positive : 0 < value) :
    (Nat.toDigits 10 value).head? ≠ some '0' := by
  induction value using Nat.strongRecOn with
  | ind value inductionHypothesis =>
    rw [Nat.toDigits_eq_if (by decide)]
    split
    case isTrue small =>
      rw [List.head?_singleton, ne_eq, Option.some.injEq, Nat.digitChar_eq_zero]
      omega
    case isFalse =>
      rw [List.head?_append, Option.or_of_isSome (List.isSome_head?.mpr Nat.toDigits_ne_nil)]
      exact inductionHypothesis (value / 10) (by omega) (by omega)

/-- A run is what is written for its value unless it has a zero in front of other digits. -/
theorem IsRun.eq_toDigits_iff (run : IsRun digits) :
    digits = Nat.toDigits 10 (Nat.ofDigitChars 10 digits 0) ↔
      ¬∃ rest, rest ≠ [] ∧ digits = '0' :: rest := by
  constructor
  · rintro written ⟨rest, more, rfl⟩
    rcases Nat.eq_zero_or_pos (Nat.ofDigitChars 10 ('0' :: rest) 0) with zero | positive
    · rw [zero, Nat.toDigits_zero] at written
      exact more (List.cons.inj written).2
    · apply head_toDigits_ne_zero positive
      rw [← written, List.head?_cons]
  · intro single
    cases digits with
    | nil => exact absurd rfl run.nonempty
    | cons first rest =>
      by_cases zero : first = '0'
      · subst zero
        have last : rest = [] := Decidable.byContradiction fun more => single ⟨rest, more, rfl⟩
        subst last
        rfl
      · have positive : 0 < first.toNat - '0'.toNat := by
          have inRange := (Char.isDigit_iff_toNat.mp run.head_isDigit).1
          have different : first.toNat ≠ '0'.toNat := fun same => zero (Char.toNat_inj.mp same)
          omega
        have decimal := (List.forall_mem_cons.mp run.digits).2
        rw [Nat.ofDigitChars_cons, Nat.mul_zero, Nat.zero_add,
          ← toDigits_append_digits positive decimal, toDigits_of_isDigit run.head_isDigit,
          List.singleton_append]

/-- A run has no sign, so only the leading zero matters. -/
theorem IsRun.isPlain_iff (run : IsRun digits) :
    IsPlain digits ↔ ¬∃ rest, rest ≠ [] ∧ digits = '0' :: rest := by
  have unsigned : ∀ sign : Char, sign.isDigit = false → digits.head? ≠ some sign := by
    intro sign noDigit begins
    obtain ⟨rest, rfl⟩ := List.head?_eq_some_iff.mp begins
    rw [run.head_isDigit] at noDigit
    cases noDigit
  constructor
  · rintro ⟨_, noZero, _⟩ ⟨rest, more, rfl⟩
    exact noZero ⟨[], rest, Or.inl rfl, more, rfl⟩
  · refine fun single => ⟨unsigned '+' (by decide), ?_, fun zero => unsigned '-' (by decide) zero.1⟩
    rintro ⟨sign, rest, rfl | rfl | rfl, more, same⟩
    · exact single ⟨rest, more, same⟩
    · exact unsigned '+' (by decide) (congrArg List.head? same)
    · exact unsigned '-' (by decide) (congrArg List.head? same)

/-- Behind a minus sign the number must not be zero either. -/
theorem IsRun.isPlain_minus_iff (run : IsRun digits) : IsPlain ('-' :: digits) ↔
    Nat.ofDigitChars 10 digits 0 ≠ 0 ∧ ¬∃ rest, rest ≠ [] ∧ digits = '0' :: rest := by
  have negativeZero : IsNegativeZero ('-' :: digits) ↔ Nat.ofDigitChars 10 digits 0 = 0 := by
    constructor
    · rintro ⟨_, denotes⟩
      have value := denotes.unique (.minus run)
      omega
    · intro zero
      have denotes := Denotes.minus run
      rw [zero] at denotes
      exact ⟨rfl, denotes⟩
  have leadingZero : HasLeadingZero ('-' :: digits) ↔ ∃ rest, rest ≠ [] ∧ digits = '0' :: rest := by
    constructor
    · rintro ⟨sign, rest, rfl | rfl | rfl, more, same⟩
      · cases same
      · cases same
      · exact ⟨rest, more, (List.cons.inj same).2⟩
    · rintro ⟨rest, more, rfl⟩
      exact ⟨['-'], rest, Or.inr (Or.inr rfl), more, rfl⟩
  have noPlus : ¬HasPlus ('-' :: digits) := by simp [HasPlus]
  rw [IsPlain, negativeZero, leadingZero]
  exact ⟨fun plain => ⟨plain.2.2, plain.2.1⟩, fun held => ⟨noPlus, held.2, held.1⟩⟩

/-- A literal is the one that is written for its integer when it is plain. -/
theorem Denotes.eq_toString_iff (denotes : Denotes characters value) :
    characters = (toString value).toList ↔ IsPlain characters := by
  cases denotes with
  | unsigned run =>
    rw [run.isPlain_iff, ← run.eq_toDigits_iff]
    exact iff_of_eq (congrArg (characters = ·) (toList_toString_ofNat _))
  | @plus digits run =>
    refine iff_of_false (fun written => ?_) fun plain => plain.1 rfl
    have member : '+' ∈ Nat.toDigits 10 (Nat.ofDigitChars 10 digits 0) := by
      rw [← toList_toString_ofNat]
      exact written ▸ List.mem_cons_self
    exact absurd (Nat.isDigit_of_mem_toDigits (by decide) (by decide) member) (by decide)
  | @minus digits run =>
    rw [run.isPlain_minus_iff, ← run.eq_toDigits_iff]
    cases magnitude : Nat.ofDigitChars 10 digits 0 with
    | zero =>
      refine iff_of_false (fun written => ?_) fun held => held.1 rfl
      cases written
    | succ less =>
      have written : (toString (-((less + 1 : Nat) : Int))).toList =
          '-' :: Nat.toDigits 10 (less + 1) := toList_toString_negSucc less
      rw [written, List.cons.injEq]
      exact ⟨fun held => ⟨Nat.succ_ne_zero less, held.2⟩, fun held => ⟨rfl, held.2⟩⟩

end Syndication.Text
