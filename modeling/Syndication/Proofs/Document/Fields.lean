import Mathlib.Data.List.Basic
import Syndication.Document.Source

/-!
# Fields read back

A structure is written as an object with a member for each field that is given. Such an object
names known fields only, and each of them once, so the fields read from it are its members, and a
field has the value of its member. What is written as a list is read back as the list exactly when
each of its elements is read back.

Integers of both widths are in range when they are read, having been written from words. A floating
point number is read back exactly when it is finite, since only these have a literal.
-/

namespace Syndication

namespace Fields

variable {δ : Type} {name : String}

/-- An object that names known fields, each once, gives these fields. -/
theorem readAtLeast?_obj (least : Nat) {names : List String} {members : List (String × Json)}
    (known : ∀ member ∈ members, member.1 ∈ names) (distinct : (members.map (·.1)).Nodup) :
    readAtLeast? least names (.obj members) = some ⟨members⟩ := by
  have kept : (members.map fun member => (FieldKey.name member.1, member.2)).filterMap
      (fun member => (member.1.nameAmong? names).map fun name => (name, member.2)) = members := by
    rw [List.filterMap_map]
    conv_rhs => rw [← List.filterMap_some (l := members)]
    apply List.filterMap_congr
    intro member given
    simp [FieldKey.nameAmong?, known member given]
  show ofMembers? names (members.map fun member => (FieldKey.name member.1, member.2)) = _
  rw [ofMembers?, kept, if_pos distinct]

/-- The same holds where a list may give any number of fields. -/
theorem read?_obj {names : List String} {members : List (String × Json)}
    (known : ∀ member ∈ members, member.1 ∈ names) (distinct : (members.map (·.1)).Nodup) :
    read? names (.obj members) = some ⟨members⟩ := readAtLeast?_obj 0 known distinct

/-- The member that comes first gives the field with its name. -/
@[simp] theorem value?_cons_self (value : δ) (rest : List (String × δ)) :
    (Fields.mk ((name, value) :: rest)).value? name = some value := by
  simp [value?]

/-- It gives no other field. -/
@[simp] theorem value?_cons_of_ne {other : String} (different : name ≠ other) (value : δ)
    (rest : List (String × δ)) :
    (Fields.mk ((name, value) :: rest)).value? other = (Fields.mk rest).value? other := by
  simp [value?, different]

/-- No member gives a field. -/
@[simp] theorem value?_nil (name : String) :
    (Fields.mk ([] : List (String × δ))).value? name = none := rfl

attribute [simp] required defaulted optional

end Fields

/-! ## Lists -/

namespace Source

variable {α β : Type}

/-- What is written element by element is read back exactly when each element is. -/
theorem mapM_map_iff {write : α → β} {read? : β → Option α} {values : List α} :
    (values.map write).mapM read? = some values ↔
      ∀ value ∈ values, read? (write value) = some value := by
  induction values with
  | nil => simp
  | cons value rest inductionHypothesis =>
    rw [List.map_cons, List.mapM_cons, List.forall_mem_cons, ← inductionHypothesis]
    constructor
    · intro whole
      obtain ⟨first, readFirst, readRest⟩ := Option.bind_eq_some_iff.mp whole
      obtain ⟨others, readOthers, same⟩ := Option.bind_eq_some_iff.mp readRest
      obtain ⟨rfl, rfl⟩ := List.cons.inj (Option.some.inj same)
      exact ⟨readFirst, readOthers⟩
    · rintro ⟨readFirst, readRest⟩
      rw [readFirst, readRest]
      rfl

variable {write : α → Json} {read? : Json → Option α} {values : List α}

/-- So a list is read back exactly when each of its elements is. -/
theorem listOf?_arr_iff : listOf? read? (Json.arr (values.map write)) = some values ↔
    ∀ value ∈ values, read? (write value) = some value := mapM_map_iff

/-- A list of what is always read back is read back. -/
theorem listOf?_arr (readBack : ∀ value, read? (write value) = some value) (values : List α) :
    listOf? read? (Json.arr (values.map write)) = some values :=
  listOf?_arr_iff.mpr fun value _ => readBack value

/-- A list of texts is read back. -/
theorem listOf?_texts (texts : List String) :
    listOf? Json.text? (Json.arr (texts.map Json.str)) = some texts := by
  apply listOf?_arr
  intro text
  rfl

end Source

/-! ## Single values -/

namespace Json

attribute [simp] text? bool? isNull ofText?

/-- `null` says that there is nothing. -/
@[simp] theorem isNothing_eq (value : Json) : Source.isNothing value = value.isNull := rfl

/-- A 64-bit word is read back. -/
@[simp] theorem int64?_int (value : Int64) : int64? (.int value.toInt) = some value := by
  show Text.int64? value.toInt = _
  rw [Text.int64?, if_pos ⟨value.minValue_le_toInt, value.toInt_le⟩, Int64.ofInt_toInt]

/-- A 32-bit word is read back. -/
@[simp] theorem int32?_int (value : Int32) : int32? (.int value.toInt) = some value := by
  show Text.int32? value.toInt = _
  rw [Text.int32?, if_pos ⟨value.minValue_le_toInt, value.toInt_le⟩, Int32.ofInt_toInt]

/-- A floating point number is read back exactly when it is finite. -/
theorem float?_ofFloat (value : Binary64) :
    float? (ofFloat value) = if value.isFinite then some value else none := by
  unfold ofFloat
  split <;> rfl

end Json

end Syndication
