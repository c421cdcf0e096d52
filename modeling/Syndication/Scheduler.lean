import Syndication.Pipeline

/-!
# The scheduler

Two loops drive the pipeline: one runs sync passes, the other reconciliation passes.
Each takes one signal at a time: a tick of its timer, a request to run at once, or
the order to stop. A pass finishes before the next signal is taken, so passes of one
loop never overlap. A request is answered with the result of its own pass, or refused
once the loop has stopped; the result of a ticked pass goes nowhere.

The scheduler is ready from the first successful reconciliation pass on. Timers keep
their rhythm while passes are on time; after a late one the next is a full interval
away. There is no timer without an interval, so a loop that is to have none ends before
its first pass.
-/

namespace Syndication

/-- The two loops. -/
inductive LoopName where
  | sync
  | reconcile
  deriving DecidableEq, Repr

/-- What a loop can be told. -/
inductive Signal where
  | tick
  | run
  | stop
  deriving DecidableEq, Repr

/-- When a loop ticks next, in seconds since the start, and how often. -/
structure Timer where
  deadline : Nat
  interval : Nat
  deriving DecidableEq, Repr

namespace Timer

/-- True when the timer should have ticked by now. -/
def isDue (timer : Timer) (now : Nat) : Bool := timer.deadline ≤ now

/-- The timer after a tick that was taken now. -/
def ticked (timer : Timer) (now : Nat) : Timer :=
  { timer with deadline :=
      if timer.deadline = now then timer.deadline + timer.interval else now + timer.interval }

end Timer

/-- A loop: whether it still takes signals, and its timer. -/
structure Loop where
  running : Bool
  timer : Timer
  deriving DecidableEq, Repr

/-- A loop that starts now with an interval in seconds, which has to be positive for the loop
to run. -/
def Loop.every (interval : Nat) : Loop := ⟨interval != 0, ⟨0, interval⟩⟩

/-- The state of both loops. -/
structure Scheduler where
  now : Nat
  sync : Loop
  reconcile : Loop
  ready : Bool
  deriving DecidableEq, Repr

/-- What the sender of a signal gets back. -/
inductive Answer where
  | none
  | sync (result : Except PipelineError SyncReport)
  | reconcile (result : Except PipelineError ReconcileReport)

namespace Scheduler

variable {γ : Type}

/-- A sync pass as the answer to a request. -/
def syncPass (pipeline : Pipeline γ) (outage : Outage) (scheduler : Scheduler) (world : World γ) :
    Answer × Scheduler × World γ :=
  let (result, after) := (pipeline.runSync fun _ => outage.throughout).runOn world
  (.sync result, scheduler, after)

/-- A reconciliation pass as the answer to a request. A successful one makes the scheduler
ready. -/
def reconcilePass (pipeline : Pipeline γ) (outage : Outage) (scheduler : Scheduler)
    (world : World γ) : Answer × Scheduler × World γ :=
  let (result, after) := (pipeline.runReconcile outage).runOn world
  let ready := scheduler.ready || match result with
    | .ok _ => true
    | .error _ => false
  (.reconcile result, { scheduler with ready }, after)

/-- The pass of a loop. -/
def pass (pipeline : Pipeline γ) (outage : Outage) (loop : LoopName) (scheduler : Scheduler)
    (world : World γ) : Answer × Scheduler × World γ :=
  match loop with
  | .sync => syncPass pipeline outage scheduler world
  | .reconcile => reconcilePass pipeline outage scheduler world

/-- True while a loop takes signals. -/
def isRunning (scheduler : Scheduler) : LoopName → Bool
  | .sync => scheduler.sync.running
  | .reconcile => scheduler.reconcile.running

/-- The scheduler after a loop has stopped. -/
def stopLoop (scheduler : Scheduler) : LoopName → Scheduler
  | .sync => { scheduler with sync := { scheduler.sync with running := false } }
  | .reconcile => { scheduler with reconcile := { scheduler.reconcile with running := false } }

/-- The refusal of a request to a stopped loop. -/
def refusal : LoopName → Answer
  | .sync => .sync (.error .stopped)
  | .reconcile => .reconcile (.error .stopped)

/-- A loop takes one signal. -/
def take (pipeline : Pipeline γ) (outage : Outage) (loop : LoopName) (signal : Signal)
    (scheduler : Scheduler) (world : World γ) : Answer × Scheduler × World γ :=
  match signal with
  | .stop => (.none, scheduler.stopLoop loop, world)
  | .run =>
    if scheduler.isRunning loop then pass pipeline outage loop scheduler world
    else (refusal loop, scheduler, world)
  | .tick =>
    if scheduler.isRunning loop then (.none, (pass pipeline outage loop scheduler world).2)
    else (.none, scheduler, world)

/-- A loop ticks if its timer is due. -/
def tickIfDue (pipeline : Pipeline γ) (outage : Outage) (loop : LoopName)
    (scheduler : Scheduler) (world : World γ) : Scheduler × World γ :=
  let due := match loop with
    | .sync => scheduler.sync.timer.isDue scheduler.now
    | .reconcile => scheduler.reconcile.timer.isDue scheduler.now
  if due && scheduler.isRunning loop then
    let (_, after, world) := take pipeline outage loop .tick scheduler world
    match loop with
    | .sync =>
      ({ after with sync := { after.sync with timer := after.sync.timer.ticked after.now } }, world)
    | .reconcile =>
      ({ after with reconcile :=
          { after.reconcile with timer := after.reconcile.timer.ticked after.now } }, world)
  else (scheduler, world)

/-- Both loops tick if their timers are due. -/
def tickDue (pipeline : Pipeline γ) (outage : Outage) (scheduler : Scheduler) (world : World γ) :
    Scheduler × World γ :=
  let (scheduler, world) := tickIfDue pipeline outage .sync scheduler world
  tickIfDue pipeline outage .reconcile scheduler world

/-- Time passes in one jump; each timer due by then ticks once. -/
def advance (pipeline : Pipeline γ) (outage : Outage) (seconds : Nat) (scheduler : Scheduler)
    (world : World γ) : Scheduler × World γ :=
  tickDue pipeline outage { scheduler with now := scheduler.now + seconds } world

/-- Starts both loops. Each ticks at once and then in its interval. -/
def start (pipeline : Pipeline γ) (outage : Outage) (syncSeconds reconcileSeconds : Nat)
    (world : World γ) : Scheduler × World γ :=
  tickDue pipeline outage
    ⟨0, Loop.every syncSeconds, Loop.every reconcileSeconds, false⟩ world

/-- Stops both loops. -/
def shutdown (scheduler : Scheduler) : Scheduler := (scheduler.stopLoop .sync).stopLoop .reconcile

end Scheduler

end Syndication
