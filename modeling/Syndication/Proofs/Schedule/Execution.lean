import Syndication.Proofs.Schedule.Office

/-!
# The scheduler that runs is an office left alone

The scheduler takes a signal and performs the pass that it asks for in one go. In an office that is
idle the same comes about in single steps when nobody else has a turn in between: the request joins
the queue, the loop takes it, the pass performs its operations and the request is answered.
`Office.Reacts` says what an office that is left alone makes of a signal: which events join the log,
what the sender gets back, and what becomes of the scheduler and the world.

So all that the scheduler does, from its start to its end, is among what can happen in an office.
The office reacts to every signal that the loops of the scheduler take, the answer of the scheduler
is the one in the log, ticks make passes, and an order to stop ends the loop.
-/

namespace Syndication

open DeskEvent

variable {γ : Type} {pipeline : Pipeline γ}

/-- The pass of a loop that meets with one outage throughout. -/
def Pipeline.pass (pipeline : Pipeline γ) (outage : Outage) :
    (loop : LoopName) → Attempt (World γ) PipelineError loop.Report
  | .sync => pipeline.runSync fun _ => outage.throughout
  | .reconcile => pipeline.runReconcile outage

/-- It is a pass of the loop. -/
theorem Pipeline.isPass_pass (outage : Outage) (loop : LoopName) :
    pipeline.IsPass loop (pipeline.pass outage loop) := by
  cases loop with
  | sync => exact ⟨pipeline.collaborators, fun _ => outage.throughout, rfl⟩
  | reconcile => exact ⟨outage, rfl⟩

namespace Scheduler

variable {scheduler : Scheduler} {world : World γ} {outage : Outage} {loop : LoopName}

/-- A pass that the scheduler makes is a run of the pass of the loop. -/
theorem pass_eq : scheduler.pass pipeline outage loop world =
    (loop.answer ((pipeline.pass outage loop).runOn world).1,
      scheduler.afterPass loop ((pipeline.pass outage loop).runOn world).1,
      ((pipeline.pass outage loop).runOn world).2) := by
  cases loop with
  | sync => rfl
  | reconcile =>
    show reconcilePass pipeline outage scheduler world =
      (.reconcile ((pipeline.runReconcile outage).runOn world).1,
        scheduler.afterPass .reconcile ((pipeline.runReconcile outage).runOn world).1,
        ((pipeline.runReconcile outage).runOn world).2)
    unfold reconcilePass
    obtain ⟨result, after⟩ := (pipeline.runReconcile outage).runOn world
    cases result <;> simp [afterPass]

/-- A refusal is an answer. -/
theorem refusal_eq : refusal loop = loop.answer (.error .stopped) := by
  cases loop <;> rfl

/-- Stopping a loop that has stopped makes no difference. -/
theorem stopLoop_eq (stopped : scheduler.isRunning loop = false) :
    scheduler.stopLoop loop = scheduler := by
  obtain ⟨now, ⟨syncRunning, syncTimer⟩, ⟨reconcileRunning, reconcileTimer⟩, ready⟩ := scheduler
  cases loop with
  | sync =>
    cases stopped
    rfl
  | reconcile =>
    cases stopped
    rfl

/-- The scheduler when the timer of a loop has moved on. -/
def ticked (scheduler : Scheduler) : LoopName → Scheduler
  | .sync => { scheduler with
      sync := { scheduler.sync with timer := scheduler.sync.timer.ticked scheduler.now } }
  | .reconcile => { scheduler with
      reconcile :=
        { scheduler.reconcile with timer := scheduler.reconcile.timer.ticked scheduler.now } }

/-- The timer makes no difference to whether a loop runs. -/
theorem isRunning_ticked (scheduler : Scheduler) (loop other : LoopName) :
    (scheduler.ticked loop).isRunning other = scheduler.isRunning other := by
  cases loop <;> cases other <;> rfl

/-- It makes no difference to readiness either. -/
theorem ready_ticked (scheduler : Scheduler) (loop : LoopName) :
    (scheduler.ticked loop).ready = scheduler.ready := by
  cases loop <;> rfl

/-- Nobody gets an answer to a tick. -/
theorem take_tick_fst (pipeline : Pipeline γ) (outage : Outage) (loop : LoopName)
    (scheduler : Scheduler) (world : World γ) :
    (take pipeline outage loop .tick scheduler world).1 = .none := by
  rw [take]
  split <;> rfl

/-- True when a loop that runs should have ticked by now. -/
def isDue (scheduler : Scheduler) : LoopName → Bool
  | .sync => scheduler.sync.timer.isDue scheduler.now && scheduler.isRunning .sync
  | .reconcile => scheduler.reconcile.timer.isDue scheduler.now && scheduler.isRunning .reconcile

/-- A loop whose timer is due takes a tick, and the timer moves on. -/
theorem tickIfDue_eq (pipeline : Pipeline γ) (outage : Outage) (loop : LoopName)
    (scheduler : Scheduler) (world : World γ) :
    scheduler.tickIfDue pipeline outage loop world =
      if scheduler.isDue loop then
        ((take pipeline outage loop .tick scheduler world).2.1.ticked loop,
          (take pipeline outage loop .tick scheduler world).2.2)
      else (scheduler, world) := by
  cases loop <;> rfl

/-- A tick of the sync loop makes no difference to the timer of the other loop. -/
theorem isDue_tickIfDue_sync (pipeline : Pipeline γ) (outage : Outage) (scheduler : Scheduler)
    (world : World γ) :
    (scheduler.tickIfDue pipeline outage .sync world).1.isDue .reconcile =
      scheduler.isDue .reconcile := by
  rw [tickIfDue_eq]
  split
  next due =>
    have running : scheduler.isRunning .sync = true := (Bool.and_eq_true_iff.mp due).2
    rw [take, if_pos running, pass_eq]
    rfl
  next => rfl

end Scheduler

namespace Office

variable {office later : Office γ} {loop : LoopName}

/-- No loop has anything to do. -/
def Idle (office : Office γ) : Prop :=
  ∀ loop, (office.desk loop).queue = [] ∧ (office.desk loop).work = none

/-- A step is a way to an office. -/
theorem Step.leads {label : Option (Σ loop : LoopName, Act loop.Report)}
    (step : Step pipeline label office later) : Leads pipeline office later :=
  .single ⟨label, step⟩

/-- Of two turns at a desk the second counts, when the first one is of no concern to the
scheduler. -/
theorem afterTurn_afterTurn {first second : Act loop.Report} {world worldThen : World γ}
    {desk deskThen : Desk γ loop.Report}
    (unconcerned : office.scheduler.afterAct loop first = office.scheduler) :
    (office.afterTurn loop first world desk).afterTurn loop second worldThen deskThen =
      office.afterTurn loop second worldThen deskThen := by
  unfold afterTurn
  rw [unconcerned]
  congr 1
  exact Function.update_idem ..

section turns

variable {first second : Act loop.Report} {world worldThen : World γ}
  {desk deskThen : Desk γ loop.Report}

/-- A loop has a turn. -/
theorem leads_of_turn (taken : (office.desk loop).Turn (pipeline.IsPass loop)
      (office.scheduler.isRunning loop) office.world first world desk) :
    Leads pipeline office (office.afterTurn loop first world desk) := (Step.turn taken).leads

/-- It has another one at once. -/
theorem leads_of_next_turn
    (unconcerned : office.scheduler.afterAct loop first = office.scheduler)
    (taken : desk.Turn (pipeline.IsPass loop) (office.scheduler.isRunning loop) world second
      worldThen deskThen) :
    Leads pipeline (office.afterTurn loop first world desk)
      (office.afterTurn loop second worldThen deskThen) := by
  have same : (office.afterTurn loop first world desk).scheduler = office.scheduler := unconcerned
  have next : Leads pipeline (office.afterTurn loop first world desk)
      ((office.afterTurn loop first world desk).afterTurn loop second worldThen deskThen) := by
    apply leads_of_turn
    rw [desk_afterTurn, same]
    exact taken
  rwa [afterTurn_afterTurn unconcerned] at next

/-- A pass under way comes to its end when nobody interferes. -/
theorem leads_of_work (unconcerned : office.scheduler.afterAct loop first = office.scheduler)
    (pass : Nat) (ticket : Option Nat) (rest : Attempt (World γ) PipelineError loop.Report)
    (underWay : desk.work = some ⟨pass, ticket, rest⟩) :
    Leads pipeline (office.afterTurn loop first world desk)
      (office.afterTurn loop (.finish (rest.runOn world).1) (rest.runOn world).2
        (desk.conclude ⟨pass, ticket, rest⟩ (rest.runOn world).1)) := by
  induction rest generalizing first world desk with
  | done result => exact leads_of_next_turn unconcerned (.finish underWay rfl)
  | act effect next inductionHypothesis =>
    have proceeds : Leads pipeline (office.afterTurn loop first world desk) _ :=
      leads_of_next_turn unconcerned (.proceed underWay rfl)
    exact proceeds.trans (inductionHypothesis world rfl rfl)

end turns

/-- An idle desk with a longer log. -/
theorem Idle.desk_eq (idle : office.Idle) (loop : LoopName)
    (log : List (DeskEvent loop.Report)) : { office.desk loop with log } = ⟨[], none, log⟩ := by
  show Desk.mk (office.desk loop).queue (office.desk loop).work log = ⟨[], none, log⟩
  rw [(idle loop).1, (idle loop).2]

/-! ## Signals -/

/-- The number of the next event at the desk of a loop. -/
def next (office : Office γ) (loop : LoopName) : Nat := (office.desk loop).log.length

/-- The office after some events at the desk of a loop, the latest first, and what came of them. -/
def noting (office : Office γ) (loop : LoopName) (events : List (DeskEvent loop.Report))
    (scheduler : Scheduler) (world : World γ) : Office γ :=
  ⟨scheduler, world, Function.update office.desk loop
    { office.desk loop with log := events ++ (office.desk loop).log }⟩

section noting

variable {events : List (DeskEvent loop.Report)} {scheduler : Scheduler} {world : World γ}

/-- The log of the loop is longer. -/
theorem desk_noting : (office.noting loop events scheduler world).desk loop =
    { office.desk loop with log := events ++ (office.desk loop).log } := Function.update_self ..

/-- The desk of the other loop is the same. -/
theorem desk_noting_of_ne {other : LoopName} (different : other ≠ loop) :
    (office.noting loop events scheduler world).desk other = office.desk other :=
  Function.update_of_ne different ..

end noting

/-- What an idle office makes of a signal that a loop takes when nobody else has a turn before it is
idle again: the answer that the sender gets, and the office then. -/
inductive Reacts (pipeline : Pipeline γ) (outage : Outage) (office : Office γ) (loop : LoopName) :
    Signal → Answer → Office γ → Prop
  /-- A request is answered with the result of a pass that begins after it has come in. -/
  | serves {result : Except PipelineError loop.Report} {after : World γ}
      (running : office.scheduler.isRunning loop = true)
      (passed : (pipeline.pass outage loop).runOn office.world = (result, after)) :
      Reacts pipeline outage office loop .run (loop.answer result)
        (office.noting loop
          [answered (office.next loop) result, finished (office.next loop + 1) result,
            began (office.next loop + 1) (some (office.next loop)), requested (office.next loop)]
          (office.scheduler.afterPass loop result) after)
  /-- A request to a loop that has stopped is refused. -/
  | refuses (halted : office.scheduler.isRunning loop = false) :
      Reacts pipeline outage office loop .run (loop.answer (.error .stopped))
        (office.noting loop
          [answered (office.next loop) (.error .stopped), requested (office.next loop)]
          office.scheduler office.world)
  /-- A tick makes a pass, and nobody gets its result. -/
  | ticks {result : Except PipelineError loop.Report} {after : World γ}
      (running : office.scheduler.isRunning loop = true)
      (passed : (pipeline.pass outage loop).runOn office.world = (result, after)) :
      Reacts pipeline outage office loop .tick .none
        (office.noting loop
          [finished (office.next loop) result, began (office.next loop) none]
          (office.scheduler.afterPass loop result) after)
  /-- An order to stop ends the loop. -/
  | ends (running : office.scheduler.isRunning loop = true) :
      Reacts pipeline outage office loop .stop .none
        (office.noting loop [stopped] (office.scheduler.stopLoop loop) office.world)
  /-- A loop that has stopped takes no notice of ticks and of orders to stop. -/
  | ignores {signal : Signal} (halted : office.scheduler.isRunning loop = false)
      (other : signal ≠ .run) : Reacts pipeline outage office loop signal .none office

variable {outage : Outage} {signal : Signal} {answer : Answer}

/-- An office stays idle whatever is noted. -/
theorem Idle.noting (idle : office.Idle) (events : List (DeskEvent loop.Report))
    (scheduler : Scheduler) (world : World γ) :
    (office.noting loop events scheduler world).Idle := by
  intro other
  by_cases same : other = loop
  · subst same
    rw [desk_noting]
    exact idle other
  · rw [desk_noting_of_ne same]
    exact idle other

/-- An office is idle after a reaction. -/
theorem Reacts.idle (reacts : office.Reacts pipeline outage loop signal answer later)
    (idle : office.Idle) : later.Idle := by
  cases reacts with
  | ignores halted other => exact idle
  | _ => exact idle.noting _ _ _

/-- A reaction is a way to an office. -/
theorem Reacts.leads (reacts : office.Reacts pipeline outage loop signal answer later)
    (idle : office.Idle) : Leads pipeline office later := by
  cases reacts with
  | serves running passed =>
    have queued : (office.desk loop).receive.queue = [.run (office.desk loop).log.length] :=
      congrArg (fun queue => queue ++ [Command.run (office.desk loop).log.length]) (idle loop).1
    have comes : Leads pipeline office
        (office.afterTurn loop .arrive office.world (office.desk loop).receive) :=
      leads_of_turn (.receive running)
    have taken := comes.trans (leads_of_next_turn rfl
      (.take running (idle loop).2 queued (pipeline.isPass_pass outage loop)))
    have finishes := taken.trans (leads_of_work rfl _ _ (pipeline.pass outage loop) rfl)
    rw [passed] at finishes
    rw [noting, idle.desk_eq]
    exact finishes
  | refuses halted => exact leads_of_turn (.refuse halted)
  | ticks running passed =>
    have ticks : Leads pipeline office (office.afterTurn loop .tick office.world
        ((office.desk loop).begin (office.desk loop).queue none (pipeline.pass outage loop))) :=
      leads_of_turn (.tick running (idle loop).2 (pipeline.isPass_pass outage loop))
    have finishes := ticks.trans (leads_of_work rfl _ _ (pipeline.pass outage loop) rfl)
    rw [passed, (idle loop).1] at finishes
    rw [noting, idle.desk_eq]
    exact finishes
  | ends running =>
    have queued : (office.desk loop).order.queue = [.stop] :=
      congrArg (fun queue => queue ++ [Command.stop]) (idle loop).1
    have ordered : Leads pipeline office
        (office.afterTurn loop .arrive office.world (office.desk loop).order) :=
      leads_of_turn (.order running)
    have stops := ordered.trans (leads_of_next_turn rfl (.stop running (idle loop).2 queued))
    rw [noting, idle.desk_eq]
    exact stops
  | ignores halted other => exact .refl

/-- The answer to a request joins the log. -/
theorem Reacts.exists_answered (reacts : office.Reacts pipeline outage loop .run answer later) :
    ∃ result, answered (office.next loop) result ∈ (later.desk loop).log ∧
      answer = loop.answer result := by
  cases reacts with
  | serves running passed =>
    rw [desk_noting]
    exact ⟨_, List.mem_cons_self, rfl⟩
  | refuses halted =>
    rw [desk_noting]
    exact ⟨_, List.mem_cons_self, rfl⟩
  | ignores halted other => exact absurd rfl other

/-- The scheduler does with a signal what an office makes of it. -/
theorem reacts_take (pipeline : Pipeline γ) (outage : Outage) (office : Office γ)
    (loop : LoopName) (signal : Signal) :
    ∃ later : Office γ, office.Reacts pipeline outage loop signal
        (Scheduler.take pipeline outage loop signal office.scheduler office.world).1 later ∧
      (later.scheduler, later.world) =
        (Scheduler.take pipeline outage loop signal office.scheduler office.world).2 := by
  cases running : office.scheduler.isRunning loop with
  | true =>
    cases signal with
    | run =>
      rw [Scheduler.take, if_pos running, Scheduler.pass_eq]
      exact ⟨_, .serves running rfl, rfl⟩
    | tick =>
      rw [Scheduler.take, if_pos running, Scheduler.pass_eq]
      exact ⟨_, .ticks running rfl, rfl⟩
    | stop => exact ⟨_, .ends running, rfl⟩
  | false =>
    have halted : ¬office.scheduler.isRunning loop = true := by simp [running]
    cases signal with
    | run =>
      rw [Scheduler.take, if_neg halted, Scheduler.refusal_eq]
      exact ⟨_, .refuses running, rfl⟩
    | tick =>
      rw [Scheduler.take, if_neg halted]
      exact ⟨office, .ignores running (by decide), rfl⟩
    | stop =>
      rw [Scheduler.take, Scheduler.stopLoop_eq running]
      exact ⟨office, .ignores running (by decide), rfl⟩

end Office

/-! ## Runs of the scheduler -/

/-- A signal that a loop took, the outage of the pass that it made of it, and what the sender got
back. -/
structure Taking where
  outage : Outage
  loop : LoopName
  signal : Signal
  answer : Answer

namespace Scheduler

/-- The tick of a loop whose timer is due. -/
def dueTick (scheduler : Scheduler) (outage : Outage) (loop : LoopName) : List Taking :=
  if scheduler.isDue loop then [⟨outage, loop, .tick, .none⟩] else []

/-- The ticks that are due, the latest first. -/
def dueTicks (scheduler : Scheduler) (outage : Outage) : List Taking :=
  scheduler.dueTick outage .reconcile ++ scheduler.dueTick outage .sync

/-- What a scheduler that runs does: the signals that its loops have taken since the start, the
latest first, each with the answer of the scheduler, and what it comes to. It can be told to take a
signal, that time has passed, or to end. -/
inductive Executed (pipeline : Pipeline γ) (syncSeconds reconcileSeconds : Nat) (world : World γ) :
    List Taking → Scheduler × World γ → Prop
  | start (outage : Outage) : Executed pipeline syncSeconds reconcileSeconds world
      ((starting syncSeconds reconcileSeconds).dueTicks outage)
      (start pipeline outage syncSeconds reconcileSeconds world)
  | take {takings : List Taking} {reached : Scheduler × World γ}
      (executed : Executed pipeline syncSeconds reconcileSeconds world takings reached)
      (outage : Outage) (loop : LoopName) (signal : Signal) :
      Executed pipeline syncSeconds reconcileSeconds world
        (⟨outage, loop, signal,
          (take pipeline outage loop signal reached.1 reached.2).1⟩ :: takings)
        (take pipeline outage loop signal reached.1 reached.2).2
  | advance {takings : List Taking} {reached : Scheduler × World γ}
      (executed : Executed pipeline syncSeconds reconcileSeconds world takings reached)
      (outage : Outage) (seconds : Nat) :
      Executed pipeline syncSeconds reconcileSeconds world
        (({ reached.1 with now := reached.1.now + seconds } : Scheduler).dueTicks outage ++ takings)
        (advance pipeline outage seconds reached.1 reached.2)
  | shutdown {takings : List Taking} {reached : Scheduler × World γ}
      (executed : Executed pipeline syncSeconds reconcileSeconds world takings reached) :
      Executed pipeline syncSeconds reconcileSeconds world
        (⟨Outage.none, .reconcile, .stop, .none⟩ :: ⟨Outage.none, .sync, .stop, .none⟩ :: takings)
        (reached.1.shutdown, reached.2)

end Scheduler

namespace Office

/-- What becomes of an office that is left alone while its loops take signals, the latest taking
first. In between time passes. -/
inductive LeftAlone (pipeline : Pipeline γ) (start : Office γ) : List Taking → Office γ → Prop
  | start : LeftAlone pipeline start [] start
  | wait {takings : List Taking} {office : Office γ} (scheduler : Scheduler)
      (alone : LeftAlone pipeline start takings office)
      (running : ∀ loop, scheduler.isRunning loop = office.scheduler.isRunning loop)
      (ready : scheduler.ready = office.scheduler.ready) :
      LeftAlone pipeline start takings { office with scheduler }
  | take {takings : List Taking} {office later : Office γ} {taking : Taking}
      (alone : LeftAlone pipeline start takings office)
      (reacts : office.Reacts pipeline taking.outage taking.loop taking.signal taking.answer
        later) : LeftAlone pipeline start (taking :: takings) later

namespace LeftAlone

variable {start : Office γ} {takings : List Taking}

/-- Being left alone leads an idle office to an idle one. -/
theorem leads (alone : LeftAlone pipeline start takings office) (idle : start.Idle) :
    Leads pipeline start office ∧ office.Idle := by
  induction alone with
  | start => exact ⟨.refl, idle⟩
  | wait scheduler _ running ready inductionHypothesis =>
    exact ⟨inductionHypothesis.1.trans (Step.elsewhere scheduler _ running ready).leads,
      inductionHypothesis.2⟩
  | take _ reacts inductionHypothesis =>
    exact ⟨inductionHypothesis.1.trans (reacts.leads inductionHypothesis.2),
      reacts.idle inductionHypothesis.2⟩

/-- What the sender of a request got back is in the log of the loop as an answer. -/
theorem exists_answered (alone : LeftAlone pipeline start takings office) (idle : start.Idle) :
    ∀ taking ∈ takings, taking.signal = .run → ∃ ticket result,
      answered ticket result ∈ (office.desk taking.loop).log ∧
        taking.answer = taking.loop.answer result := by
  induction alone with
  | start => exact fun _ member => absurd member List.not_mem_nil
  | wait scheduler _ running ready inductionHypothesis => exact inductionHypothesis
  | @take _ _ _ last alone reacts inductionHypothesis =>
    have grows := (reacts.leads (alone.leads idle).2).log_suffix
    intro taking member request
    rcases List.mem_cons.mp member with rfl | earlier
    · rw [request] at reacts
      obtain ⟨result, logged, same⟩ := reacts.exists_answered
      exact ⟨_, result, logged, same⟩
    · obtain ⟨ticket, result, logged, same⟩ := inductionHypothesis taking earlier request
      exact ⟨ticket, result, (grows taking.loop).subset logged, same⟩

/-- A timer that is due makes its loop take a tick, as it does in the scheduler. -/
theorem exists_tickIfDue (alone : LeftAlone pipeline start takings office) (outage : Outage)
    (loop : LoopName) :
    ∃ later, LeftAlone pipeline start (office.scheduler.dueTick outage loop ++ takings) later ∧
      (later.scheduler, later.world) =
        office.scheduler.tickIfDue pipeline outage loop office.world := by
  rw [Scheduler.dueTick, Scheduler.tickIfDue_eq]
  split
  next due =>
    obtain ⟨ticked, reacts, same⟩ := reacts_take pipeline outage office loop .tick
    rw [Scheduler.take_tick_fst] at reacts
    have ticks : LeftAlone pipeline start (⟨outage, loop, .tick, .none⟩ :: takings) ticked :=
      alone.take reacts
    rw [← same]
    exact ⟨_, ticks.wait (ticked.scheduler.ticked loop)
      (Scheduler.isRunning_ticked ticked.scheduler loop)
      (Scheduler.ready_ticked ticked.scheduler loop), rfl⟩
  next => exact ⟨office, alone, rfl⟩

/-- Both timers that are due make their loops take ticks. -/
theorem exists_tickDue (alone : LeftAlone pipeline start takings office) (outage : Outage) :
    ∃ later, LeftAlone pipeline start (office.scheduler.dueTicks outage ++ takings) later ∧
      (later.scheduler, later.world) =
        office.scheduler.tickDue pipeline outage office.world := by
  obtain ⟨middle, first, reached⟩ := alone.exists_tickIfDue outage .sync
  obtain ⟨later, second, reachedThen⟩ := first.exists_tickIfDue outage .reconcile
  have changed : middle.scheduler =
      (office.scheduler.tickIfDue pipeline outage .sync office.world).1 := congrArg Prod.fst reached
  have sameTick : middle.scheduler.dueTick outage .reconcile =
      office.scheduler.dueTick outage .reconcile := by
    rw [Scheduler.dueTick, changed, Scheduler.isDue_tickIfDue_sync, Scheduler.dueTick]
  refine ⟨later, ?_, ?_⟩
  · rw [Scheduler.dueTicks, List.append_assoc, ← sameTick]
    exact second
  · rw [reachedThen, Scheduler.tickDue, ← reached]

end LeftAlone

/-- Whatever a scheduler that runs does, an office that is left alone does as well. -/
theorem exists_leftAlone {syncSeconds reconcileSeconds : Nat} {world : World γ}
    {takings : List Taking} {reached : Scheduler × World γ}
    (executed : Scheduler.Executed pipeline syncSeconds reconcileSeconds world takings reached) :
    ∃ office, LeftAlone pipeline (opened syncSeconds reconcileSeconds world) takings office ∧
      (office.scheduler, office.world) = reached := by
  induction executed with
  | start outage =>
    obtain ⟨office, alone, reached⟩ := LeftAlone.start.exists_tickDue outage
    rw [List.append_nil] at alone
    exact ⟨office, alone, reached⟩
  | take _ outage loop signal inductionHypothesis =>
    obtain ⟨office, alone, rfl⟩ := inductionHypothesis
    obtain ⟨later, reacts, reached⟩ := reacts_take pipeline outage office loop signal
    exact ⟨later, alone.take reacts, reached⟩
  | advance _ outage seconds inductionHypothesis =>
    obtain ⟨office, alone, rfl⟩ := inductionHypothesis
    have waits := alone.wait { office.scheduler with now := office.scheduler.now + seconds }
      (fun loop => by cases loop <;> rfl) rfl
    exact waits.exists_tickDue outage
  | shutdown _ inductionHypothesis =>
    obtain ⟨office, alone, rfl⟩ := inductionHypothesis
    obtain ⟨middle, first, reached⟩ := reacts_take pipeline Outage.none office .sync .stop
    obtain ⟨later, second, reachedThen⟩ := reacts_take pipeline Outage.none middle .reconcile .stop
    obtain ⟨changed, same⟩ : middle.scheduler = office.scheduler.stopLoop .sync ∧
        middle.world = office.world := Prod.mk.inj reached
    refine ⟨later, (alone.take first).take second, reachedThen.trans ?_⟩
    rw [changed, same]
    rfl

end Office

end Syndication
