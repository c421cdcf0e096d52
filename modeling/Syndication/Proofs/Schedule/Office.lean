import Mathlib.Data.Sigma.Basic
import Mathlib.Logic.Function.Basic
import Mathlib.Logic.Relation
import Syndication.Proofs.Schedule.Laws

/-!
# Both loops at work

The two loops share a world and the scheduler, of which one loop changes what concerns it: it ends
itself, and a reconciliation pass that succeeds makes the scheduler ready. Each has a desk of its
own, and their turns come in any order. In between time passes and other parties change the world in
any way, and each pass may meet with any outages and collaborators.

What holds of one desk is preserved by its own turns and by those of the other loop. Readiness is
earned: it tells exactly whether some reconciliation pass has succeeded so far.

The scheduler that runs takes one signal after the other and waits for its answer. That is one of
the orders in which turns can come, so whatever it does the offices here can do.
-/

namespace Syndication

/-- What the passes of a loop report. -/
def LoopName.Report : LoopName → Type
  | .sync => SyncReport
  | .reconcile => ReconcileReport

/-- The answer of a loop to a request. -/
def LoopName.answer : (loop : LoopName) → Except PipelineError loop.Report → Answer
  | .sync => .sync
  | .reconcile => .reconcile

/-- The passes that a loop makes, whichever outages they meet with. A sync pass may find
collaborators that changed. -/
def Pipeline.IsPass {γ : Type} (pipeline : Pipeline γ) :
    (loop : LoopName) → Attempt (World γ) PipelineError loop.Report → Prop
  | .sync => fun pass => ∃ collaborators outages,
      pass = { pipeline with collaborators }.runSync outages
  | .reconcile => fun pass => ∃ outage, pass = pipeline.runReconcile outage

namespace Scheduler

/-- The scheduler when a pass of a loop is over. -/
def afterPass (scheduler : Scheduler) :
    (loop : LoopName) → Except PipelineError loop.Report → Scheduler
  | .sync, _ => scheduler
  | .reconcile, .ok _ => { scheduler with ready := true }
  | .reconcile, .error _ => scheduler

/-- The scheduler after an act at the desk of a loop. -/
def afterAct (scheduler : Scheduler) (loop : LoopName) : Act loop.Report → Scheduler
  | .stop => scheduler.stopLoop loop
  | .finish result => scheduler.afterPass loop result
  | _ => scheduler

/-- A scheduler whose loops start now with intervals in seconds. -/
def starting (syncSeconds reconcileSeconds : Nat) : Scheduler :=
  ⟨0, Loop.every syncSeconds, Loop.every reconcileSeconds, false⟩

variable {scheduler : Scheduler} {loop : LoopName}

/-- The end of a pass ends no loop. -/
theorem isRunning_afterPass (result : Except PipelineError loop.Report) (other : LoopName) :
    (scheduler.afterPass loop result).isRunning other = scheduler.isRunning other := by
  cases loop with
  | sync => rfl
  | reconcile => cases result <;> cases other <;> rfl

/-- An act tells whether the loop goes on. -/
theorem isRunning_afterAct (act : Act loop.Report) :
    (scheduler.afterAct loop act).isRunning loop =
      act.leavesRunning (scheduler.isRunning loop) := by
  cases act with
  | stop => cases loop <;> rfl
  | finish result => exact isRunning_afterPass result loop
  | _ => rfl

/-- An act makes no difference to the other loop. -/
theorem isRunning_afterAct_of_ne (act : Act loop.Report) {other : LoopName}
    (different : other ≠ loop) :
    (scheduler.afterAct loop act).isRunning other = scheduler.isRunning other := by
  cases act with
  | stop => cases loop <;> cases other <;> first | rfl | exact absurd rfl different
  | finish result => exact isRunning_afterPass result other
  | _ => rfl

/-- Sync passes make no difference to readiness. -/
theorem ready_afterAct_sync (act : Act SyncReport) :
    (scheduler.afterAct .sync act).ready = scheduler.ready := by
  cases act <;> rfl

/-- The scheduler is ready when it was so before or a reconciliation pass ends with success. -/
theorem ready_afterAct_reconcile (act : Act ReconcileReport) :
    (scheduler.afterAct .reconcile act).ready = true ↔
      scheduler.ready = true ∨ ∃ report, act = .finish (.ok report) := by
  cases act with
  | finish result => cases result <;> simp [afterAct, afterPass]
  | stop => simp [afterAct, stopLoop]
  | _ => simp [afterAct]

end Scheduler

/-- The scheduler with the desks of its loops, and the world that they share. -/
structure Office (γ : Type) where
  scheduler : Scheduler
  world : World γ
  desk : (loop : LoopName) → Desk γ loop.Report

open DeskEvent

/-- A successful pass is over when it was so before or just ends. -/
theorem Desk.Turn.finished_ok_iff {γ ρ : Type} {isPass : Attempt (World γ) PipelineError ρ → Prop}
    {running : Bool} {world after : World γ} {act : Act ρ} {desk later : Desk γ ρ}
    (turn : Turn isPass running world desk act after later) :
    (∃ pass report, finished pass (.ok report) ∈ later.log) ↔
      (∃ pass report, finished pass (.ok report) ∈ desk.log) ∨
        ∃ report, act = .finish (.ok report) := by
  cases turn with
  | stop accepting idle next => simp [close]
  | @finish work result underWay left =>
    cases result with
    | ok report => simp [conclude, exists_or]
    | error error => simp [conclude]
  | _ => simp [Desk.receive, Desk.refuse, Desk.order, begin, Desk.proceed]

namespace Office

variable {γ : Type}

/-- The office when the loops start, each with an empty desk. A loop without an interval has
ended. -/
def opened (syncSeconds reconcileSeconds : Nat) (world : World γ) : Office γ :=
  ⟨.starting syncSeconds reconcileSeconds, world, fun loop =>
    .opened ((Scheduler.starting syncSeconds reconcileSeconds).isRunning loop)⟩

/-- The office after an act at the desk of a loop. -/
def afterTurn (office : Office γ) (loop : LoopName) (act : Act loop.Report) (world : World γ)
    (desk : Desk γ loop.Report) : Office γ :=
  ⟨office.scheduler.afterAct loop act, world, Function.update office.desk loop desk⟩

section afterTurn

variable {loop : LoopName} {act : Act loop.Report} {world : World γ} {desk : Desk γ loop.Report}

/-- The desk of the loop. -/
theorem desk_afterTurn (office : Office γ) :
    (office.afterTurn loop act world desk).desk loop = desk := Function.update_self ..

/-- The desk of the other loop is the same. -/
theorem desk_afterTurn_of_ne (office : Office γ) {other : LoopName} (different : other ≠ loop) :
    (office.afterTurn loop act world desk).desk other = office.desk other :=
  Function.update_of_ne different ..

end afterTurn

/-- What can happen next, and at which desk. -/
inductive Step (pipeline : Pipeline γ) :
    Option (Σ loop : LoopName, Act loop.Report) → Office γ → Office γ → Prop
  /-- A loop, or a party that has to do with it, has its turn. -/
  | turn {office : Office γ} {loop : LoopName} {act : Act loop.Report} {world : World γ}
      {desk : Desk γ loop.Report}
      (taken : (office.desk loop).Turn (pipeline.IsPass loop) (office.scheduler.isRunning loop)
        office.world act world desk) :
      Step pipeline (some ⟨loop, act⟩) office (office.afterTurn loop act world desk)
  /-- Time passes, or others change the world. -/
  | elsewhere {office : Office γ} (scheduler : Scheduler) (world : World γ)
      (running : ∀ loop, scheduler.isRunning loop = office.scheduler.isRunning loop)
      (ready : scheduler.ready = office.scheduler.ready) :
      Step pipeline none office { office with scheduler, world }

/-- An office comes out of another in some steps. -/
def Leads (pipeline : Pipeline γ) : Office γ → Office γ → Prop :=
  Relation.ReflTransGen fun office later => ∃ label, Step pipeline label office later

variable {pipeline : Pipeline γ} {label : Option (Σ loop : LoopName, Act loop.Report)}
  {office later : Office γ}

/-! ## What holds at all times -/

/-- At all times both desks are lawful, and the scheduler is ready exactly when a reconciliation
pass has succeeded so far. -/
structure Sound (office : Office γ) : Prop where
  desks : ∀ loop, (office.desk loop).Lawful (office.scheduler.isRunning loop)
  ready_iff : office.scheduler.ready = true ↔
    ∃ pass report, finished pass (.ok report) ∈ (office.desk .reconcile).log

/-- What an office keeps from step to step. -/
structure Kept (office : Office γ) : Prop where
  desks : ∀ loop, (office.desk loop).Kept (office.scheduler.isRunning loop)
  ready_iff : office.scheduler.ready = true ↔
    ∃ pass report, finished pass (.ok report) ∈ (office.desk .reconcile).log

/-- A step is a turn at the desk of a loop, or leaves it alone. -/
theorem Step.desk (step : Step pipeline label office later) (loop : LoopName) :
    (∃ act, label = some ⟨loop, act⟩ ∧
        (office.desk loop).Turn (pipeline.IsPass loop) (office.scheduler.isRunning loop)
          office.world act later.world (later.desk loop) ∧
        later.scheduler.isRunning loop = act.leavesRunning (office.scheduler.isRunning loop)) ∨
      (∀ act, label ≠ some ⟨loop, act⟩) ∧ later.desk loop = office.desk loop ∧
        later.scheduler.isRunning loop = office.scheduler.isRunning loop := by
  cases step with
  | @turn _ own act world desk taken =>
    by_cases same : loop = own
    · subst same
      refine Or.inl ⟨act, rfl, ?_, Scheduler.isRunning_afterAct act⟩
      rw [desk_afterTurn]
      exact taken
    · refine Or.inr ⟨?_, desk_afterTurn_of_ne office same,
        Scheduler.isRunning_afterAct_of_ne act same⟩
      rintro other ⟨rfl⟩
      exact same rfl
  | elsewhere scheduler world running ready => exact Or.inr ⟨nofun, rfl, running loop⟩

/-- Every step keeps an office. -/
theorem Step.kept (step : Step pipeline label office later) (kept : office.Kept) : later.Kept where
  desks loop := by
    rcases step.desk loop with ⟨act, _, turn, running⟩ | ⟨_, same, running⟩
    · rw [running]
      exact turn.kept (kept.desks loop)
    · rw [same, running]
      exact kept.desks loop
  ready_iff := by
    cases step with
    | @turn _ loop act world desk taken =>
      cases loop with
      | sync =>
        rw [desk_afterTurn_of_ne office (by decide), ← kept.ready_iff]
        exact Eq.congr_left (Scheduler.ready_afterAct_sync act)
      | reconcile =>
        rw [desk_afterTurn, taken.finished_ok_iff, ← kept.ready_iff]
        exact Scheduler.ready_afterAct_reconcile act
    | elsewhere scheduler world running ready => rw [ready]; exact kept.ready_iff

/-- The office is kept when the loops start. -/
theorem opened_kept (syncSeconds reconcileSeconds : Nat) (world : World γ) :
    (opened syncSeconds reconcileSeconds world).Kept where
  desks loop := Desk.opened_kept ((Scheduler.starting ..).isRunning loop)
  ready_iff := by
    constructor
    · nofun
    · rintro ⟨pass, report, finished⟩
      exact absurd finished (Desk.finished_not_mem_opened pass _)

/-- So it is at all times. -/
theorem Leads.kept (leads : Leads pipeline office later) (kept : office.Kept) : later.Kept := by
  induction leads with
  | refl => exact kept
  | tail _ step inductionHypothesis =>
    obtain ⟨label, step⟩ := step
    exact step.kept inductionHypothesis

/-- The logs only grow. -/
theorem Leads.log_suffix (leads : Leads pipeline office later) (loop : LoopName) :
    (office.desk loop).log.IsSuffix (later.desk loop).log := by
  induction leads with
  | refl => exact List.suffix_refl _
  | tail _ step inductionHypothesis =>
    obtain ⟨label, step⟩ := step
    rcases step.desk loop with ⟨act, _, turn, _⟩ | ⟨_, same, _⟩
    · exact inductionHypothesis.trans turn.log_suffix
    · rwa [same]

/-- A scheduler that is ready remains so. -/
theorem Leads.ready (leads : Leads pipeline office later) (kept : office.Kept)
    (ready : office.scheduler.ready = true) : later.scheduler.ready = true := by
  obtain ⟨pass, report, succeeded⟩ := kept.ready_iff.mp ready
  exact (leads.kept kept).ready_iff.mpr
    ⟨pass, report, (leads.log_suffix .reconcile).subset succeeded⟩

/-- What is kept is sound. -/
theorem Kept.sound (kept : office.Kept) : office.Sound :=
  ⟨fun loop => (kept.desks loop).toLawful, kept.ready_iff⟩

end Office

end Syndication
