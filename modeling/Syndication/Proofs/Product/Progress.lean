import Syndication.Product.Status

/-!
# Progress of the publication status

A status is as far as the number of its complete stages, and a stage is complete when its position
is not beyond that number. A stage is ready when it is the next one. So completing a stage sets its
flag and no other, since a stage can only be completed after the ones before it. A changed catalog
entry clears every flag.
-/

namespace Syndication

/-- The position before a stage is that of the stage it needs. -/
theorem Stage.position_prerequisite {stage earlier : Stage}
    (before : stage.prerequisite = some earlier) : earlier.position + 1 = stage.position := by
  cases stage <;> cases before <;> rfl

/-- Stages differ in their positions. -/
theorem Stage.eq_of_position_eq {left right : Stage} (same : left.position = right.position) :
    left = right := by
  cases left <;> cases right <;> cases same <;> rfl

namespace SyncStatus

variable {status reached : SyncStatus} {stage : Stage}

/-- A stage is complete when its position is not beyond the complete ones. -/
theorem isComplete_iff : status.isComplete stage = true ↔ stage.position ≤ status.completed :=
  decide_eq_true_iff

/-- After a stage the stages up to it are complete. -/
theorem completed_after (stage : Stage) : (after stage).completed = stage.position := by
  cases stage <;> rfl

/-- A stage that is ready is the next one to be completed. -/
theorem completed_of_isReadyFor (ready : status.isReadyFor stage = true) :
    status.completed + 1 = stage.position := by
  rw [isReadyFor, Bool.and_eq_true, Bool.not_eq_true', ← Bool.not_eq_true, isComplete_iff] at ready
  obtain ⟨incomplete, prior⟩ := ready
  cases before : stage.prerequisite with
  | none =>
    cases stage <;> cases before
    exact Nat.le_antisymm (Nat.not_le.mp incomplete) (Nat.le_add_left 1 _)
  | some earlier =>
    rw [before, Option.all_some, isComplete_iff] at prior
    have next := Stage.position_prerequisite before
    omega

/-- A completed stage was complete already, or it was ready and is the last complete one now. -/
theorem complete_ok (completed : status.complete stage = .ok reached) :
    (status.isComplete stage = true ∧ reached = status) ∨
      (status.isReadyFor stage = true ∧ reached = after stage) := by
  unfold complete at completed
  split at completed
  case isTrue already =>
    cases completed
    exact Or.inl ⟨already, rfl⟩
  case isFalse =>
    split at completed
    case isTrue ready =>
      cases completed
      exact Or.inr ⟨ready, rfl⟩
    case isFalse => cases completed

/-- A stage is complete after it was completed. -/
theorem isComplete_of_complete (completed : status.complete stage = .ok reached) :
    reached.isComplete stage = true := by
  rcases complete_ok completed with ⟨already, rfl⟩ | ⟨_, rfl⟩
  · exact already
  · exact isComplete_iff.mpr (Nat.le_of_eq (completed_after stage).symm)

/-- Completing a stage leaves the flags of the other stages as they are. -/
theorem isComplete_other_of_complete {other : Stage} (different : other ≠ stage)
    (completed : status.complete stage = .ok reached) :
    reached.isComplete other = status.isComplete other := by
  rcases complete_ok completed with ⟨_, rfl⟩ | ⟨ready, rfl⟩
  · rfl
  · have next := completed_of_isReadyFor ready
    have apart : other.position ≠ stage.position := fun same =>
      different (Stage.eq_of_position_eq same)
    rw [Bool.eq_iff_iff, isComplete_iff, isComplete_iff, completed_after]
    omega

/-- Completing a stage clears no flag. -/
theorem isComplete_mono_of_complete (completed : status.complete stage = .ok reached)
    {other : Stage} (flagged : status.isComplete other = true) :
    reached.isComplete other = true := by
  by_cases current : other = stage
  · subst current
    exact isComplete_of_complete completed
  · rw [isComplete_other_of_complete current completed]
    exact flagged

/-- A stage that is not complete is ready when the stage before it, if any, is complete. -/
theorem isReadyFor_of_prerequisite (incomplete : status.isComplete stage = false)
    (prior : ∀ earlier, stage.prerequisite = some earlier → status.isComplete earlier = true) :
    status.isReadyFor stage = true := by
  rw [isReadyFor, incomplete, Bool.not_false, Bool.true_and, Option.all_eq_true]
  exact prior

/-- A stage that is complete is not ready. -/
theorem isComplete_of_isReadyFor (ready : status.isReadyFor stage = true) :
    status.isComplete stage = false := by
  simp only [isReadyFor, Bool.and_eq_true, Bool.not_eq_true'] at ready
  exact ready.1

/-- A later stage is never complete without the earlier ones. -/
theorem isComplete_prerequisite {earlier : Stage} (before : stage.prerequisite = some earlier)
    (flagged : status.isComplete stage = true) : status.isComplete earlier = true := by
  have next := Stage.position_prerequisite before
  rw [isComplete_iff] at flagged ⊢
  omega

/-- A stage that is ready has the stage before it complete. -/
theorem isComplete_prerequisite_of_isReadyFor {earlier : Stage}
    (before : stage.prerequisite = some earlier) (ready : status.isReadyFor stage = true) :
    status.isComplete earlier = true := by
  simp only [isReadyFor, before, Option.all_some, Bool.and_eq_true] at ready
  exact ready.2

/-- With the content complete a product is synchronized. -/
theorem eq_contentSynced_of_isComplete (flagged : status.isComplete .content = true) :
    status = .contentSynced := by
  cases status with
  | contentSynced => rfl
  | pending | viewReady | imageReady | needsResync => cases flagged

/-- A stage that is ready can be completed. -/
theorem complete_of_isReadyFor (ready : status.isReadyFor stage = true) :
    status.complete stage = .ok (after stage) := by
  simp [complete, isComplete_of_isReadyFor ready, ready]

/-- The complete stages come before the others. -/
theorem filter_isComplete_prefix (status : SyncStatus) :
    Stage.all.filter status.isComplete <+: Stage.all := by
  cases status with
  | pending | needsResync => exact List.nil_prefix
  | viewReady => exact ⟨[.image, .content], rfl⟩
  | imageReady => exact ⟨[.content], rfl⟩
  | contentSynced => exact List.prefix_refl _

/-- Without a complete view a product is pending or waits to be published again. -/
theorem eq_pending_or_needsResync (incomplete : status.isComplete .view = false) :
    status = .pending ∨ ∃ version, status = .needsResync version := by
  cases status with
  | pending => exact Or.inl rfl
  | needsResync version => exact Or.inr ⟨version, rfl⟩
  | viewReady | imageReady | contentSynced => cases incomplete

/-- No stage is complete after the catalog entry changed. -/
theorem isComplete_resync (status : SyncStatus) (version : Int32) (stage : Stage) :
    (status.resync version).isComplete stage = false := by
  cases status <;> cases stage <;> rfl

end SyncStatus

end Syndication
