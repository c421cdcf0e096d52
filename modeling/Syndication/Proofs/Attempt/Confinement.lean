import Syndication.Proofs.Attempt.Services

/-!
# Confined attempts

An attempt that works for one product among many touches the part of the state that belongs to the
product and depends on nothing else. Two notions say so, both relative to what is seen of a state:
`Attempt.Leaves` says that a run changes nothing of what is seen, and `Attempt.Determined` compares
two runs, which differ only as far as the states that they start from look different.

A state has many places, and what is seen depends on the place. An attempt is `Attempt.Confined` to
a place when it is determined by what is seen there and leaves alone what is seen at every other.
The rules below follow the ways of forming attempts.
-/

namespace Syndication.Attempt

variable {σ τ υ ρ ι ε ε' α β : Type}

/-- A run changes nothing of what is seen of the state, whether it succeeds or not. -/
def Leaves (seen : σ → υ) (attempt : Attempt σ ε α) : Prop :=
  ∀ state, seen (attempt.runOn state).2 = seen state

/-- Runs from states that look the same have the same result and lead to states that look the
same. -/
def Determined (seen : σ → υ) (attempt : Attempt σ ε α) : Prop :=
  ∀ first second, seen first = seen second →
    (attempt.runOn first).1 = (attempt.runOn second).1 ∧
      seen (attempt.runOn first).2 = seen (attempt.runOn second).2

/-- An attempt depends on one place of the state and changes nothing at the others. -/
structure Confined (seen : ι → σ → υ) (place : ι) (attempt : Attempt σ ε α) : Prop where
  determined : attempt.Determined (seen place)
  elsewhere : ∀ other, other ≠ place → attempt.Leaves (seen other)

/-- From some state the attempt succeeds with a value. -/
def Yields (attempt : Attempt σ ε α) (value : α) : Prop :=
  ∃ state, (attempt.runOn state).1 = .ok value

variable {seen : σ → υ} {first : Attempt σ ε α} {next : α → Attempt σ ε β}
  {attempt : Attempt σ ε α}

/-- A result that needs no state is the only one. -/
theorem Yields.result_eq {result : Except ε α} {value : α}
    (yielded : (ofExcept result : Attempt σ ε α).Yields value) : result = .ok value := by
  obtain ⟨_, ran⟩ := yielded
  exact ran

/-- Changing the error of an attempt does not change its values. -/
theorem Yields.of_mapError {wrap : ε → ε'} {value : α}
    (yielded : (attempt.mapError wrap).Yields value) : attempt.Yields value := by
  obtain ⟨state, ran⟩ := yielded
  rw [runOn_mapError] at ran
  refine ⟨state, ?_⟩
  cases result : (attempt.runOn state).1 with
  | error cause =>
    rw [result] at ran
    cases ran
  | ok found =>
    rw [result] at ran
    cases ran
    rfl

/-! ## What an attempt leaves alone -/

/-- A result that needs no state leaves everything alone. -/
theorem leaves_ofExcept (seen : σ → υ) (result : Except ε α) :
    (ofExcept result : Attempt σ ε α).Leaves seen := fun _ => rfl

/-- A sequence leaves alone what its first part and every continuation leave alone. -/
theorem Leaves.bind (begun : first.Leaves seen)
    (continued : ∀ value, first.Yields value → (next value).Leaves seen) :
    (first >>= next).Leaves seen := by
  intro state
  have kept := begun state
  rw [runOn_bind]
  rcases ran : first.runOn state with ⟨cause | value, later⟩
  · rw [ran] at kept
    exact kept
  · rw [ran] at kept
    have possible : first.Yields value := ⟨state, by rw [ran]⟩
    exact (continued value possible later).trans kept

/-- Changing the error of an attempt changes nothing of what it does. -/
theorem Leaves.mapError (kept : attempt.Leaves seen) (wrap : ε → ε') :
    (attempt.mapError wrap).Leaves seen := by
  intro state
  rw [runOn_mapError]
  exact kept state

/-- Taking a failure as a value changes nothing of what is done. -/
theorem Leaves.settle (kept : attempt.Leaves seen) :
    (attempt.settle : Attempt σ ε' (Except ε α)).Leaves seen := by
  intro state
  rw [runOn_settle]
  exact kept state

/-- On the whole an attempt on a part leaves alone what it leaves alone on the part. -/
theorem Leaves.focus {part : Part τ σ} {shown : τ → ρ}
    (putBack : ∀ whole changed, seen changed = seen (part.get whole) →
      shown (part.set whole changed) = shown whole)
    (kept : attempt.Leaves seen) : (attempt.focus part).Leaves shown := by
  intro whole
  rw [runOn_focus]
  exact putBack whole _ (kept (part.get whole))

/-! ## What an attempt depends on -/

/-- A result that needs no state depends on nothing. -/
theorem determined_ofExcept (seen : σ → υ) (result : Except ε α) :
    (ofExcept result : Attempt σ ε α).Determined seen := fun _ _ same => ⟨rfl, same⟩

/-- Everything depends on the whole state. -/
theorem determined_id (attempt : Attempt σ ε α) : attempt.Determined id := by
  rintro first _ rfl
  exact ⟨rfl, rfl⟩

/-- A sequence depends on what its first part and every continuation depend on. -/
theorem Determined.bind (begun : first.Determined seen)
    (continued : ∀ value, first.Yields value → (next value).Determined seen) :
    (first >>= next).Determined seen := by
  intro left right same
  obtain ⟨result, after⟩ := begun left right same
  rw [runOn_bind, runOn_bind]
  rcases ranLeft : first.runOn left with ⟨resultLeft, laterLeft⟩
  rcases ranRight : first.runOn right with ⟨resultRight, laterRight⟩
  rw [ranLeft, ranRight] at result after
  obtain rfl : resultLeft = resultRight := result
  cases resultLeft with
  | error cause => exact ⟨rfl, after⟩
  | ok value => exact continued value ⟨left, by rw [ranLeft]⟩ laterLeft laterRight after

/-- Changing the error of an attempt does not change what it depends on. -/
theorem Determined.mapError (determined : attempt.Determined seen) (wrap : ε → ε') :
    (attempt.mapError wrap).Determined seen := by
  intro left right same
  obtain ⟨result, after⟩ := determined left right same
  rw [runOn_mapError, runOn_mapError, result]
  exact ⟨rfl, after⟩

/-- On the whole an attempt on a part depends on what it depends on in the part, provided that this
is seen of the whole, and that nothing else of the whole is seen to differ afterwards. -/
theorem Determined.focus {part : Part τ σ} {shown : τ → ρ}
    (look : ∀ left right, shown left = shown right → seen (part.get left) = seen (part.get right))
    (putBack : ∀ left right changedLeft changedRight, shown left = shown right →
      seen changedLeft = seen changedRight →
        shown (part.set left changedLeft) = shown (part.set right changedRight))
    (determined : attempt.Determined seen) : (attempt.focus part).Determined shown := by
  intro left right same
  obtain ⟨result, after⟩ := determined _ _ (look left right same)
  rw [runOn_focus, runOn_focus]
  exact ⟨result, putBack left right _ _ same after⟩

/-! ## Confinement -/

variable {places : ι → σ → υ} {place : ι}

/-- A result that needs no state is confined to any place. -/
theorem confined_ofExcept (places : ι → σ → υ) (place : ι) (result : Except ε α) :
    (ofExcept result : Attempt σ ε α).Confined places place :=
  ⟨determined_ofExcept _ result, fun _ _ => leaves_ofExcept _ result⟩

/-- A sequence is confined to a place when its first part and every continuation are. -/
theorem Confined.bind (begun : first.Confined places place)
    (continued : ∀ value, first.Yields value → (next value).Confined places place) :
    (first >>= next).Confined places place where
  determined := begun.determined.bind fun value yielded => (continued value yielded).determined
  elsewhere other different := (begun.elsewhere other different).bind fun value yielded =>
    (continued value yielded).elsewhere other different

/-- Changing the error of an attempt does not change where it acts. -/
theorem Confined.mapError (confined : attempt.Confined places place) (wrap : ε → ε') :
    (attempt.mapError wrap).Confined places place where
  determined := confined.determined.mapError wrap
  elsewhere other different := (confined.elsewhere other different).mapError wrap

end Syndication.Attempt
