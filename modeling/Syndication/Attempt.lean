/-!
# Attempts

An attempt works on a state and may fail. It is made of single operations: each acts on
the state in one go, and between two of them the state may be changed by somebody else.
What an attempt did before it failed stays done: a failure is a result, not a roll-back.

`Attempt.runOn` performs an attempt with nobody else around. Attempts on a part of a
state extend to the whole, and the error of one layer becomes a cause in the next.
-/

namespace Syndication

/-- A computation on a state that may fail, one operation after the other. -/
inductive Attempt (σ ε α : Type) where
  /-- The attempt is over. -/
  | done (result : Except ε α)
  /-- One operation: its effect, and how the attempt goes on, both given the state that the
  operation finds. -/
  | act (effect : σ → σ) (next : σ → Attempt σ ε α)

/-- A part of a larger state. -/
structure Part (τ σ : Type) where
  get : τ → σ
  set : τ → σ → τ
  get_set : ∀ whole part, get (set whole part) = part := by intros; rfl
  set_get : ∀ whole, set whole (get whole) = whole := by intros; rfl
  set_set : ∀ whole first second, set (set whole first) second = set whole second := by
    intros; rfl

attribute [simp] Part.get_set Part.set_get Part.set_set

/-- A part of a part. -/
def Part.within {τ σ ρ : Type} (inner : Part σ ρ) (outer : Part τ σ) : Part τ ρ where
  get whole := inner.get (outer.get whole)
  set whole part := outer.set whole (inner.set (outer.get whole) part)
  get_set := by simp
  set_get := by simp
  set_set := by simp

namespace Attempt

variable {σ τ ε ε' α β : Type}

/-- The result of an attempt that nobody interferes with, and the state it leaves. -/
def runOn : Attempt σ ε α → σ → Except ε α × σ
  | done result, state => (result, state)
  | act effect next, state => (next state).runOn (effect state)

/-- A result that needs no state. -/
def ofExcept (result : Except ε α) : Attempt σ ε α := done result

/-- The attempt that is one operation with a given result and effect. -/
def ofRun (run : σ → Except ε α × σ) : Attempt σ ε α :=
  act (fun state => (run state).2) fun state => done (run state).1

/-- One operation that cannot fail and has nothing to tell. -/
def update (effect : σ → σ) : Attempt σ ε Unit := act effect fun _ => done (.ok ())

/-- Goes on with the value of an attempt, unless it fails. -/
def andThen (next : α → Attempt σ ε β) : Attempt σ ε α → Attempt σ ε β
  | done (.ok value) => next value
  | done (.error error) => done (.error error)
  | act effect rest => act effect fun state => andThen next (rest state)

/-- The attempt that takes a failure of another one as a value, and so does not fail. -/
def settle : Attempt σ ε α → Attempt σ ε' (Except ε α)
  | done result => done (.ok result)
  | act effect next => act effect fun state => settle (next state)

instance : Monad (Attempt σ ε) where
  pure value := done (.ok value)
  bind first next := first.andThen next

/-- What follows the second part of a sequence follows the sequence. -/
theorem andThen_assoc {δ : Type} (first : Attempt σ ε α) (second : α → Attempt σ ε β)
    (third : β → Attempt σ ε δ) :
    (first.andThen second).andThen third =
      first.andThen fun value => (second value).andThen third := by
  induction first with
  | done result => cases result <;> rfl
  | act effect rest inductionHypothesis =>
    exact congrArg (act effect) (funext inductionHypothesis)

/-- Going on with the value itself adds nothing. -/
theorem andThen_done (attempt : Attempt σ ε α) :
    attempt.andThen (fun value => done (.ok value)) = attempt := by
  induction attempt with
  | done result => cases result <;> rfl
  | act effect rest inductionHypothesis =>
    exact congrArg (act effect) (funext inductionHypothesis)

instance : LawfulMonad (Attempt σ ε) :=
  .mk' _ andThen_done (fun _ _ => rfl) andThen_assoc

instance : MonadExcept ε (Attempt σ ε) where
  throw error := done (.error error)
  tryCatch attempt handle := attempt.settle.andThen fun
    | .ok value => done (.ok value)
    | .error error => handle error

/-- An attempt whose error is the cause of another error. -/
def mapError (wrap : ε → ε') : Attempt σ ε α → Attempt σ ε' α
  | done result => done (result.mapError wrap)
  | act effect next => act effect fun state => mapError wrap (next state)

/-- An attempt on a part of a larger state. -/
def focus (part : Part τ σ) : Attempt σ ε α → Attempt τ ε α
  | done result => done result
  | act effect next =>
    act (fun state => part.set state (effect (part.get state))) fun state =>
      focus part (next (part.get state))

/-- Running what was made from a run gives that run. -/
@[simp] theorem runOn_ofRun (run : σ → Except ε α × σ) (state : σ) :
    (ofRun run).runOn state = run state := rfl

/-- A result that needs no state leaves the state alone. -/
@[simp] theorem runOn_ofExcept (result : Except ε α) (state : σ) :
    (ofExcept result).runOn state = (result, state) := rfl

/-- An operation that cannot fail has its effect. -/
@[simp] theorem runOn_update (effect : σ → σ) (state : σ) :
    (update effect : Attempt σ ε Unit).runOn state = (.ok (), effect state) := rfl

/-- A value succeeds and leaves the state alone. -/
@[simp] theorem runOn_pure (value : α) (state : σ) :
    (pure value : Attempt σ ε α).runOn state = (.ok value, state) := rfl

/-- A thrown error fails and leaves the state alone. -/
@[simp] theorem runOn_throw (error : ε) (state : σ) :
    (throw error : Attempt σ ε α).runOn state = (.error error, state) := rfl

/-- Only the error is changed; the effect is the same. -/
@[simp] theorem runOn_mapError (wrap : ε → ε') (attempt : Attempt σ ε α) (state : σ) :
    (attempt.mapError wrap).runOn state =
      ((attempt.runOn state).1.mapError wrap, (attempt.runOn state).2) := by
  induction attempt generalizing state with
  | done result => rfl
  | act effect next inductionHypothesis => exact inductionHypothesis state (effect state)

/-- A settled attempt has the effect of the attempt and succeeds with its result. -/
@[simp] theorem runOn_settle (attempt : Attempt σ ε α) (state : σ) :
    (attempt.settle : Attempt σ ε' (Except ε α)).runOn state =
      (.ok (attempt.runOn state).1, (attempt.runOn state).2) := by
  induction attempt generalizing state with
  | done result => rfl
  | act effect next inductionHypothesis => exact inductionHypothesis state (effect state)

/-- The part is worked on, and what became of it is put back. -/
@[simp] theorem runOn_focus (part : Part τ σ) (attempt : Attempt σ ε α) (state : τ) :
    (attempt.focus part).runOn state =
      ((attempt.runOn (part.get state)).1, part.set state (attempt.runOn (part.get state)).2) := by
  induction attempt generalizing state with
  | done result => simp [focus, runOn]
  | act effect next inductionHypothesis => simp [focus, runOn, inductionHypothesis]

/-- A sequence stops at its first failure; otherwise the state is handed on. -/
theorem runOn_bind (first : Attempt σ ε α) (next : α → Attempt σ ε β) (state : σ) :
    (first >>= next).runOn state =
      match first.runOn state with
      | (.ok value, after) => (next value).runOn after
      | (.error error, after) => (.error error, after) := by
  show (first.andThen next).runOn state = _
  induction first generalizing state with
  | done result => cases result <;> rfl
  | act effect rest inductionHypothesis => exact inductionHypothesis state (effect state)

end Attempt

end Syndication
