import Syndication.Proofs.Attempt.Services

/-!
# Success when nothing fails

With nobody else around and no outage, an attempt that can go wrong only by an outage goes
right. `Attempt.Succeeds` says so, and what holds of the value and the state at the end. An
attempt on a part of a state leaves the rest as it was, so what it needs later is still there.
-/

namespace Syndication

namespace Attempt

variable {σ τ ε ε' α β : Type} {success : α → σ → Prop} {state : σ}

/-- With nobody else around the attempt succeeds, and something holds of its value then. -/
abbrev Succeeds (success : α → σ → Prop) (attempt : Attempt σ ε α) (state : σ) : Prop :=
  attempt.Meets Alone (fun _ _ => True)
    (fun result later => ∃ value, result = .ok value ∧ success value later) state

/-- An attempt that succeeds runs to a value. -/
theorem Succeeds.runs {attempt : Attempt σ ε α} (succeeded : attempt.Succeeds success state) :
    ∃ value later, attempt.runOn state = (.ok value, later) ∧ success value later := by
  obtain ⟨value, result, holds⟩ := meets_alone_iff.mp succeeded
  exact ⟨value, (attempt.runOn state).2, Prod.ext result rfl, holds⟩

/-- A value succeeds. -/
theorem succeeds_pure {value : α} (holds : success value state) :
    (pure value : Attempt σ ε α).Succeeds success state := ⟨value, rfl, holds⟩

/-- A result that is a value succeeds. -/
theorem succeeds_ofExcept {result : Except ε α} {value : α} (same : result = .ok value)
    (holds : success value state) : (ofExcept result).Succeeds success state :=
  ⟨value, same, holds⟩

/-- One operation succeeds when it gives a value. -/
theorem succeeds_ofRun {run : σ → Except ε α × σ} (value : α) (ran : (run state).1 = .ok value)
    (holds : success value (run state).2) : (ofRun run).Succeeds success state := by
  refine meets_ofRun ?_
  rintro _ rfl
  exact ⟨trivial, value, ran, holds⟩

/-- An operation that cannot fail succeeds. -/
theorem succeeds_update {success : Unit → σ → Prop} {effect : σ → σ}
    (holds : success () (effect state)) :
    (update effect : Attempt σ ε Unit).Succeeds success state := by
  refine meets_update ?_
  rintro _ rfl
  exact ⟨trivial, (), rfl, holds⟩

/-- Where the first part of a sequence succeeds, the rest alone has to reach the goal. -/
theorem Succeeds.bind {first : Attempt σ ε α} {next : α → Attempt σ ε β}
    {goal : Except ε β → σ → Prop} (begun : first.Succeeds success state)
    (continued : ∀ value later, success value later →
      (next value).Meets Alone (fun _ _ => True) goal later) :
    (first >>= next).Meets Alone (fun _ _ => True) goal state := by
  refine Meets.bind begun ?_ ?_
  · rintro value later ⟨_, ⟨rfl⟩, holds⟩
    exact continued value later holds
  · rintro cause later ⟨_, impossible, _⟩
    cases impossible

/-- A sequence succeeds when its first part does and the rest does from there. -/
theorem Succeeds.followed {first : Attempt σ ε α} {next : α → Attempt σ ε β}
    {successNext : β → σ → Prop} (begun : first.Succeeds success state)
    (continued : ∀ value later, success value later → (next value).Succeeds successNext later) :
    (first >>= next).Succeeds successNext state := begun.bind continued

/-- Changing the error matters to no attempt that succeeds. -/
theorem Succeeds.wrapped {attempt : Attempt σ ε α} {wrap : ε → ε'}
    (succeeded : attempt.Succeeds success state) :
    (attempt.mapError wrap).Succeeds success state := by
  refine Meets.mapError (succeeded.weaken (fun _ _ same => same) (fun _ _ same => same) ?_)
  rintro _ later ⟨value, rfl, holds⟩
  exact ⟨value, rfl, holds⟩

/-- A settled attempt succeeds with the value of the attempt. -/
theorem Succeeds.settled {attempt : Attempt σ ε α} (succeeded : attempt.Succeeds success state) :
    (attempt.settle : Attempt σ ε' (Except ε α)).Succeeds
      (fun result later => ∃ value, result = .ok value ∧ success value later) state := by
  refine succeeded.settle.weaken (fun _ _ same => same) (fun _ _ same => same) ?_
  rintro _ later ⟨_, rfl, value, rfl, holds⟩
  exact ⟨.ok value, rfl, value, rfl, holds⟩

/-- More may be said about the value, or less. -/
theorem Succeeds.weaken {success' : α → σ → Prop} {attempt : Attempt σ ε α}
    (succeeded : attempt.Succeeds success state)
    (reached : ∀ value later, success value later → success' value later) :
    attempt.Succeeds success' state := by
  refine Meets.weaken (fun _ _ same => same) (fun _ _ same => same) ?_ succeeded
  rintro _ later ⟨value, rfl, holds⟩
  exact ⟨value, rfl, reached value later holds⟩

/-- What holds after an attempt in any case holds after a success too. -/
theorem Succeeds.ensured {always : σ → Prop} {success' : α → σ → Prop} {attempt : Attempt σ ε α}
    (succeeded : attempt.Succeeds success state) (ensured : attempt.Ensures always success' state) :
    attempt.Succeeds (fun value later => always later ∧ success value later) state := by
  obtain ⟨value, result, holds⟩ := meets_alone_iff.mp succeeded
  exact meets_alone_iff.mpr ⟨value, result, (meets_alone_iff.mp ensured).1, holds⟩

/-- An attempt on a part that succeeds also succeeds on the whole, of which it changes the part
at most. -/
theorem Succeeds.focus {part : Part τ σ} {whole : τ} {attempt : Attempt σ ε α}
    (succeeded : attempt.Succeeds success (part.get whole)) :
    (attempt.focus part).Succeeds
      (fun value later => ∃ changed, later = part.set whole changed ∧ success value changed)
      whole := by
  obtain ⟨value, changed, ran, holds⟩ := succeeded.runs
  refine meets_alone_iff.mpr ?_
  rw [runOn_focus, ran]
  exact ⟨value, rfl, changed, rfl, holds⟩

end Attempt

end Syndication
