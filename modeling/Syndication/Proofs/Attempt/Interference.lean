import Mathlib.Logic.Relation
import Syndication.Attempt

/-!
# Attempts under interference

An attempt is a sequence of operations, and others may change the state between two of
them. `Attempt.Meets` says what an attempt guarantees then: as long as what the others do
stays within one relation, each operation of the attempt stays within another, and the
result and the state at the end are as wanted.

The rules below follow the shape of the attempt, one for each way of forming it. Two
consequences are drawn. An attempt that nobody interferes with meets a goal exactly when
one run reaches it, `meets_alone_iff`. An attempt that is under way keeps its guarantee
while others act, `Meets.interfered`, so that attempts of several parties can be taken
together.
-/

namespace Syndication.Attempt

variable {σ τ ε ε' α β : Type}

/-- From a state on, while others act as `others` allows, each operation acts as `own`
says, and the attempt ends with a result and a state as `goal` says. Others may act before
each operation; the goal is about the moment at which the attempt is over. -/
def Meets (others own : σ → σ → Prop) (goal : Except ε α → σ → Prop) :
    Attempt σ ε α → σ → Prop
  | done result, state => goal result state
  | act effect next, state => ∀ found, others state found →
      own found (effect found) ∧ Meets others own goal (next found) (effect found)

/-- What others do when there is nobody else. -/
def Alone (before after : σ) : Prop := after = before

variable {others own : σ → σ → Prop} {state : σ}

/-- An attempt that is a single operation. -/
theorem meets_ofRun {goal : Except ε α → σ → Prop} {run : σ → Except ε α × σ}
    (acts : ∀ found, others state found →
      own found (run found).2 ∧ goal (run found).1 (run found).2) :
    (ofRun run).Meets others own goal state := acts

/-- An attempt that is a single operation which cannot fail. -/
theorem meets_update {goal : Except ε Unit → σ → Prop} {effect : σ → σ}
    (acts : ∀ found, others state found →
      own found (effect found) ∧ goal (.ok ()) (effect found)) :
    (update effect : Attempt σ ε Unit).Meets others own goal state := acts

/-- A sequence meets its goal when its first part reaches states from which the rest meets
it, and a failure of the first part meets the goal itself.

Induct over the first part. At its end the rest takes over from the very same state, so
others get no extra turn there. -/
theorem Meets.bind {middle : Except ε α → σ → Prop} {goal : Except ε β → σ → Prop}
    {first : Attempt σ ε α} {next : α → Attempt σ ε β}
    (begun : first.Meets others own middle state)
    (continued : ∀ value later, middle (.ok value) later →
      (next value).Meets others own goal later)
    (failed : ∀ error later, middle (.error error) later → goal (.error error) later) :
    (first >>= next).Meets others own goal state := by
  show (first.andThen next).Meets others own goal state
  induction first generalizing state with
  | done result =>
    cases result with
    | ok value => exact continued value state begun
    | error error => exact failed error state begun
  | act effect rest inductionHypothesis =>
    intro found acted
    exact ⟨(begun found acted).1, inductionHypothesis found (begun found acted).2⟩

/-- A settled attempt meets a goal on its value that the attempt meets on its result. -/
theorem Meets.settle {goal : Except ε α → σ → Prop} {attempt : Attempt σ ε α}
    (met : attempt.Meets others own goal state) :
    (attempt.settle : Attempt σ ε' (Except ε α)).Meets others own
      (fun result later => ∃ settled, result = .ok settled ∧ goal settled later) state := by
  induction attempt generalizing state with
  | done result => exact ⟨result, rfl, met⟩
  | act effect next inductionHypothesis =>
    intro found acted
    exact ⟨(met found acted).1, inductionHypothesis found (met found acted).2⟩

/-- Changing the error of an attempt changes nothing of what it does. -/
theorem Meets.mapError {goal : Except ε' α → σ → Prop} {attempt : Attempt σ ε α}
    {wrap : ε → ε'}
    (met : attempt.Meets others own (fun result later => goal (result.mapError wrap) later) state) :
    (attempt.mapError wrap).Meets others own goal state := by
  induction attempt generalizing state with
  | done result => exact met
  | act effect next inductionHypothesis =>
    intro found acted
    exact ⟨(met found acted).1, inductionHypothesis found (met found acted).2⟩

/-- An attempt on a part meets on the whole what it meets on the part, provided that others
change the part as was assumed, and that changing the part is allowed on the whole. -/
theorem Meets.focus {part : Part τ σ} {others' own' : τ → τ → Prop}
    {goal : Except ε α → σ → Prop} {attempt : Attempt σ ε α} {whole : τ}
    (seen : ∀ before after, others' before after → others (part.get before) (part.get after))
    (done : ∀ before found after, others' before found → own (part.get found) after →
      own' found (part.set found after))
    (met : attempt.Meets others own goal (part.get whole)) :
    (attempt.focus part).Meets others' own' (fun result later => goal result (part.get later))
      whole := by
  induction attempt generalizing whole with
  | done result => exact met
  | act effect next inductionHypothesis =>
    intro found acted
    have step := met (part.get found) (seen whole found acted)
    refine ⟨done whole found _ acted step.1, inductionHypothesis _ ?_⟩
    rw [part.get_set]
    exact step.2

/-- A guarantee may be given for fewer doings of others, a wider bound on the own operations
and a wider goal. -/
theorem Meets.weaken {others' own' : σ → σ → Prop} {goal goal' : Except ε α → σ → Prop}
    {attempt : Attempt σ ε α}
    (fewer : ∀ before after, others' before after → others before after)
    (wider : ∀ before after, own before after → own' before after)
    (reached : ∀ result later, goal result later → goal' result later)
    (met : attempt.Meets others own goal state) : attempt.Meets others' own' goal' state := by
  induction attempt generalizing state with
  | done result => exact reached result state met
  | act effect next inductionHypothesis =>
    intro found acted
    have step := met found (fewer state found acted)
    exact ⟨wider _ _ step.1, inductionHypothesis found step.2⟩

/-- What holds at the beginning and is preserved by everybody holds at the end too. -/
theorem Meets.frame {goal : Except ε α → σ → Prop} {attempt : Attempt σ ε α} (kept : σ → Prop)
    (byOthers : ∀ before after, kept before → others before after → kept after)
    (byOwn : ∀ before after, kept before → own before after → kept after)
    (begun : kept state) (met : attempt.Meets others own goal state) :
    attempt.Meets others own (fun result later => goal result later ∧ kept later) state := by
  induction attempt generalizing state with
  | done result => exact ⟨met, begun⟩
  | act effect next inductionHypothesis =>
    intro found acted
    have step := met found acted
    have stillKept : kept found := byOthers state found begun acted
    exact ⟨step.1, inductionHypothesis found (byOwn _ _ stillKept step.1) step.2⟩

/-- An attempt under way keeps its guarantee when others act, provided that two of their
doings in a row are one of their doings, and that they cannot spoil the goal. -/
theorem Meets.interfered {goal : Except ε α → σ → Prop} {attempt : Attempt σ ε α} {later : σ}
    (transitive : ∀ first second third, others first second → others second third →
      others first third)
    (unspoilt : ∀ result before after, goal result before → others before after →
      goal result after)
    (acted : others state later) (met : attempt.Meets others own goal state) :
    attempt.Meets others own goal later := by
  cases attempt with
  | done result => exact unspoilt result state later met acted
  | act effect next =>
    intro found actedAgain
    exact met found (transitive state later found acted actedAgain)

/-- An attempt meets a goal with nobody else around exactly when one run reaches it. -/
theorem meets_alone_iff {goal : Except ε α → σ → Prop} {attempt : Attempt σ ε α} :
    attempt.Meets Alone (fun _ _ => True) goal state ↔
      goal (attempt.runOn state).1 (attempt.runOn state).2 := by
  induction attempt generalizing state with
  | done result => rfl
  | act effect next inductionHypothesis =>
    constructor
    · intro met
      exact (inductionHypothesis state).mp (met state rfl).2
    · rintro reached _ rfl
      exact ⟨trivial, (inductionHypothesis _).mpr reached⟩

/-! ## Goals about success -/

/-- The goal that something holds in any case, and something more about the value after a
success. -/
def Outcome (always : σ → Prop) (success : α → σ → Prop) (result : Except ε α) (later : σ) : Prop :=
  always later ∧ ∀ value, result = .ok value → success value later

variable {always : σ → Prop} {success : α → σ → Prop}

/-- A known result is an outcome of an attempt that does nothing. -/
theorem meets_ofExcept {result : Except ε α} (holds : always state)
    (succeeds : ∀ value, result = .ok value → success value state) :
    (ofExcept result).Meets others own (Outcome always success) state := ⟨holds, succeeds⟩

/-- A value is the outcome of an attempt that does nothing. -/
theorem meets_pure {value : α} (holds : always state) (succeeds : success value state) :
    (pure value : Attempt σ ε α).Meets others own (Outcome always success) state := by
  refine ⟨holds, fun other same => ?_⟩
  cases same
  exact succeeds

/-- In a sequence the rest has only to deal with the successes of the first part. -/
theorem Meets.followed {first : Attempt σ ε α} {next : α → Attempt σ ε β}
    {successNext : β → σ → Prop}
    (begun : first.Meets others own (Outcome always success) state)
    (continued : ∀ value later, always later → success value later →
      (next value).Meets others own (Outcome always successNext) later) :
    (first >>= next).Meets others own (Outcome always successNext) state :=
  begun.bind (fun value later reached => continued value later reached.1 (reached.2 value rfl))
    fun _ _ reached => ⟨reached.1, nofun⟩

/-- A changed error is no other success. -/
theorem Meets.wrapped {attempt : Attempt σ ε α} {wrap : ε → ε'}
    (met : attempt.Meets others own (Outcome always success) state) :
    (attempt.mapError wrap).Meets others own (Outcome always success) state := by
  apply Meets.mapError
  refine met.weaken (fun _ _ same => same) (fun _ _ same => same) ?_
  rintro (cause | value) later reached
  · exact ⟨reached.1, nofun⟩
  · exact ⟨reached.1, fun other same => by cases same; exact reached.2 value rfl⟩

/-- A settled attempt succeeds, with a result that says what an outcome says. -/
theorem Meets.settled {attempt : Attempt σ ε α}
    (met : attempt.Meets others own (Outcome always success) state) :
    (attempt.settle : Attempt σ ε' (Except ε α)).Meets others own
      (Outcome always fun result later => ∀ value, result = .ok value → success value later)
      state := by
  refine met.settle.weaken (fun _ _ same => same) (fun _ _ same => same) ?_
  rintro _ later ⟨settled, rfl, holds, succeeds⟩
  exact ⟨holds, fun result same => by cases same; exact succeeds⟩

/-- Every attempt has an outcome that nothing is said about. -/
theorem meets_anything (attempt : Attempt σ ε α) :
    attempt.Meets others (fun _ _ => True) (Outcome (fun _ => True) fun _ _ => True) state := by
  induction attempt generalizing state with
  | done result => exact ⟨trivial, fun _ _ => trivial⟩
  | act effect next inductionHypothesis => exact fun found _ => ⟨trivial, inductionHypothesis found⟩

/-! ## Attempts that nobody interferes with -/

/-- With nobody else around, something holds in any case after an attempt, and something more
about the value after a success. -/
abbrev Ensures (always : σ → Prop) (success : α → σ → Prop) (attempt : Attempt σ ε α)
    (state : σ) : Prop :=
  attempt.Meets Alone (fun _ _ => True) (Outcome always success) state

/-- An attempt on a part ensures for the whole what it ensures for the part, given that the
whole is fine with whatever the part became. -/
theorem Ensures.focus {part : Part τ σ} {kept : τ → Prop} {whole : τ} {attempt : Attempt σ ε α}
    (ensured : attempt.Ensures always success (part.get whole))
    (putBack : ∀ changed, always changed → kept (part.set whole changed)) :
    (attempt.focus part).Ensures kept (fun value later => success value (part.get later))
      whole := by
  have reached := meets_alone_iff.mp ensured
  refine meets_alone_iff.mpr ?_
  rw [runOn_focus]
  refine ⟨putBack _ reached.1, fun value same => ?_⟩
  show success value (part.get (part.set whole _))
  rw [part.get_set]
  exact reached.2 value same

end Syndication.Attempt
