import Mathlib.Data.Nat.Init
import Syndication.Proofs.Run.Operations
import Syndication.Proofs.Schedule.Execution

/-!
# Every request is answered in the end

An office that runs on for ever answers every request, provided that it treats its loops fairly: a
pass under way goes on, and a loop that finds commands waiting again and again does not prefer its
timer for ever. Nothing else is assumed, in particular not that passes succeed.

A pass comes to its end because what is left of it gets less with each of its operations, whatever
others do to the world in between. A request in the queue comes up because the commands before it
get fewer with each one that is taken, and those that come later stay behind it.

Fair runs are no exception: whatever has happened in an office so far, there is a fair way to go on.
-/

namespace Syndication

open DeskEvent

/-- A run of an office that is fair to its loops. -/
structure FairRun {γ : Type} (pipeline : Pipeline γ) (start : Office γ) where
  office : Nat → Office γ
  label : Nat → Option (Σ loop : LoopName, Act loop.Report)
  starts : office 0 = start
  steps : ∀ n, Office.Step pipeline (label n) (office n) (office (n + 1))
  /-- A pass does not stay under way without going on. -/
  goesOn : ∀ loop n, ∃ m, n ≤ m ∧ (((office m).desk loop).work = none ∨
    ∃ act, label m = some ⟨loop, act⟩ ∧ act.works = true)
  /-- A loop that is idle again and again while commands wait takes one again and again. -/
  takesUp : ∀ loop, (∀ n, ∃ m, n ≤ m ∧ ((office m).desk loop).work = none ∧
      ((office m).desk loop).queue ≠ []) →
    ∀ n, ∃ m, n ≤ m ∧ ∃ act, label m = some ⟨loop, act⟩ ∧ act.takes = true

/-- What holds until something happens still holds when it happens. -/
theorem exists_until {holds happens : Nat → Prop} {n : Nat} (begun : holds n)
    (lasts : ∀ m, holds m → ¬happens m → holds (m + 1))
    (eventually : ∃ m, n ≤ m ∧ happens m) : ∃ m, n ≤ m ∧ holds m ∧ happens m := by
  obtain ⟨m, later, happened⟩ := eventually
  obtain ⟨distance, rfl⟩ := Nat.exists_eq_add_of_le later
  induction distance generalizing n with
  | zero => exact ⟨n, Nat.le_refl n, begun, happened⟩
  | succ distance inductionHypothesis =>
    by_cases now : happens n
    · exact ⟨n, Nat.le_refl n, begun, now⟩
    · rw [Nat.add_succ, ← Nat.succ_add] at happened
      obtain ⟨m, after, both⟩ :=
        inductionHypothesis (lasts n begun now) (Nat.le_add_right _ distance) happened
      exact ⟨m, Nat.le_of_succ_le after, both⟩

namespace Desk.Turn

variable {γ ρ : Type} {isPass : Attempt (World γ) PipelineError ρ → Prop} {running : Bool}
  {world after : World γ} {act : Act ρ} {desk later : Desk γ ρ}

/-- Only work goes on with a pass under way. -/
theorem work_eq (turn : Turn isPass running world desk act after later)
    (others : act.works = false) {work : Work γ ρ} (underWay : desk.work = some work) :
    later.work = some work := by
  cases turn with
  | receive accepting => exact underWay
  | refuse ended => exact underWay
  | order accepting => exact underWay
  | tick accepting idle own => cases idle.symm.trans underWay
  | take accepting idle next own => cases idle.symm.trans underWay
  | stop accepting idle next => cases idle.symm.trans underWay
  | proceed underWay left => cases others
  | finish underWay left => cases others

/-- As long as no command is taken, commands only join the end of the queue. -/
theorem queue_eq (turn : Turn isPass running world desk act after later)
    (others : act.takes = false) : ∃ more, later.queue = desk.queue ++ more := by
  cases turn with
  | receive accepting => exact ⟨_, rfl⟩
  | order accepting => exact ⟨_, rfl⟩
  | take accepting idle next own => cases others
  | stop accepting idle next => cases others
  | _ => exact ⟨[], (List.append_nil _).symm⟩

/-- A pass that goes on has less left to do, or it is over and its request answered. -/
theorem of_works (turn : Turn isPass running world desk act after later)
    (works : act.works = true) {pass : Nat} {ticket : Option Nat}
    {rest : Attempt (World γ) PipelineError ρ} (underWay : desk.work = some ⟨pass, ticket, rest⟩) :
    (∃ effect next, rest = .act effect next ∧ later.work = some ⟨pass, ticket, next world⟩) ∨
      later.work = none ∧ ∀ request, ticket = some request → request ∈ later.answers := by
  cases turn with
  | proceed found left =>
    cases found.symm.trans underWay
    exact Or.inl ⟨_, _, left, rfl⟩
  | finish found left =>
    cases found.symm.trans underWay
    refine Or.inr ⟨rfl, ?_⟩
    rintro request rfl
    rw [answers_conclude]
    exact List.mem_append_left _ List.mem_cons_self
  | _ => cases works

/-- When a command is taken, a request comes up or is answered. -/
theorem of_takes (turn : Turn isPass running world desk act after later)
    (takes : act.takes = true) {ticket : Nat} {before queue : List Command}
    (waits : desk.queue = before ++ .run ticket :: queue) :
    (∃ pass rest, later.work = some ⟨pass, some ticket, rest⟩) ∨ ticket ∈ later.answers ∨
      ∃ first others, before = first :: others ∧ later.queue = others ++ .run ticket :: queue := by
  cases turn with
  | take accepting idle next own =>
    cases before with
    | nil =>
      cases next.symm.trans waits
      exact Or.inl ⟨_, _, rfl⟩
    | cons first others =>
      cases next.symm.trans waits
      exact Or.inr (Or.inr ⟨_, others, rfl, rfl⟩)
  | stop accepting idle next =>
    cases before with
    | nil => cases next.symm.trans waits
    | cons first others =>
      cases next.symm.trans waits
      rw [answers_close]
      refine Or.inr (Or.inl (List.mem_append_left _ ?_))
      exact List.mem_filterMap.mpr ⟨.run ticket, by simp, rfl⟩
  | _ => cases takes

end Desk.Turn

namespace FairRun

variable {γ : Type} {pipeline : Pipeline γ} {start : Office γ} (run : FairRun pipeline start)
  (loop : LoopName)

/-- The label of a step tells whose turn it is. -/
theorem turn_of_label {n : Nat} {loop : LoopName} {act : Act loop.Report}
    (label : run.label n = some ⟨loop, act⟩) :
    ((run.office n).desk loop).Turn (pipeline.IsPass loop)
      ((run.office n).scheduler.isRunning loop) (run.office n).world act (run.office (n + 1)).world
      ((run.office (n + 1)).desk loop) := by
  rcases (run.steps n).desk loop with ⟨other, same, turn, _⟩ | ⟨silent, _⟩
  · cases label.symm.trans same
    exact turn
  · exact absurd label (silent act)

/-- A pass stays under way as it is until it goes on. -/
theorem work_until (n : Nat) {work : Work γ loop.Report}
    (underWay : ((run.office n).desk loop).work = some work) :
    ∃ m, n ≤ m ∧ ((run.office m).desk loop).work = some work ∧
      ∃ act, run.label m = some ⟨loop, act⟩ ∧ act.works = true := by
  have lasts : ∀ m, ((run.office m).desk loop).work = some work →
      ¬(((run.office m).desk loop).work = none ∨
        ∃ act, run.label m = some ⟨loop, act⟩ ∧ act.works = true) →
      ((run.office (m + 1)).desk loop).work = some work := by
    intro m stays unhappened
    rcases (run.steps m).desk loop with ⟨act, label, turn, _⟩ | ⟨_, same, _⟩
    · have others : ¬act.works = true := fun works => unhappened (Or.inr ⟨act, label, works⟩)
      exact turn.work_eq (Bool.not_eq_true _ ▸ others) stays
    · rw [same]
      exact stays
  obtain ⟨m, later, stays, happened⟩ := exists_until underWay lasts (run.goesOn loop n)
  refine ⟨m, later, stays, happened.resolve_left ?_⟩
  rw [stays]
  nofun

/-- A pass under way comes to its end, and the request that it is for is answered.

Induct over what is left of the pass: it stays as it is until the pass goes on, which it does. -/
theorem finishes (rest : Attempt (World γ) PipelineError loop.Report) (pass : Nat)
    (ticket : Option Nat) (n : Nat)
    (underWay : ((run.office n).desk loop).work = some ⟨pass, ticket, rest⟩) :
    ∃ m, n ≤ m ∧ ((run.office m).desk loop).work = none ∧
      ∀ request, ticket = some request → request ∈ ((run.office m).desk loop).answers := by
  induction rest generalizing n with
  | done result =>
    obtain ⟨m, later, stays, act, label, works⟩ := run.work_until loop n underWay
    rcases (run.turn_of_label label).of_works works stays with ⟨_, _, impossible, _⟩ | ended
    · cases impossible
    · exact ⟨m + 1, Nat.le_succ_of_le later, ended⟩
  | act effect next inductionHypothesis =>
    obtain ⟨m, later, stays, act, label, works⟩ := run.work_until loop n underWay
    rcases (run.turn_of_label label).of_works works stays with ⟨_, _, same, less⟩ | ended
    · cases same
      obtain ⟨k, after, ended⟩ := inductionHypothesis _ (m + 1) less
      exact ⟨k, by omega, ended⟩
    · exact ⟨m + 1, Nat.le_succ_of_le later, ended⟩

/-- A loop becomes idle again and again. -/
theorem idle_again (n : Nat) : ∃ m, n ≤ m ∧ ((run.office m).desk loop).work = none := by
  cases underWay : ((run.office n).desk loop).work with
  | none => exact ⟨n, Nat.le_refl n, underWay⟩
  | some work =>
    obtain ⟨m, later, idle, _⟩ := run.finishes loop work.rest work.pass work.ticket n underWay
    exact ⟨m, later, idle⟩

/-- A request stays in the queue, with the same commands before it, until a command is taken. -/
theorem queue_until (n ticket : Nat) {before queue : List Command}
    (waits : ((run.office n).desk loop).queue = before ++ .run ticket :: queue) :
    ∃ m, n ≤ m ∧ (∃ behind, ((run.office m).desk loop).queue = before ++ .run ticket :: behind) ∧
      ∃ act, run.label m = some ⟨loop, act⟩ ∧ act.takes = true := by
  have lasts : ∀ m, (∃ behind, ((run.office m).desk loop).queue = before ++ .run ticket :: behind) →
      (¬∃ act, run.label m = some ⟨loop, act⟩ ∧ act.takes = true) →
      ∃ behind, ((run.office (m + 1)).desk loop).queue = before ++ .run ticket :: behind := by
    rintro m ⟨behind, stays⟩ untaken
    rcases (run.steps m).desk loop with ⟨act, label, turn, _⟩ | ⟨_, same, _⟩
    · have others : ¬act.takes = true := fun takes => untaken ⟨act, label, takes⟩
      obtain ⟨more, grown⟩ := turn.queue_eq (Bool.not_eq_true _ ▸ others)
      exact ⟨behind ++ more, by rw [grown, stays, List.append_assoc, List.cons_append]⟩
    · rw [same]
      exact ⟨behind, stays⟩
  apply exists_until ⟨queue, waits⟩ lasts
  -- If no command were ever taken, the loop would be idle again and again with the request waiting.
  by_contra never
  have untaken : ∀ m, n ≤ m → ¬∃ act, run.label m = some ⟨loop, act⟩ ∧ act.takes = true :=
    fun m later taken => never ⟨m, later, taken⟩
  have stays : ∀ m, n ≤ m →
      ∃ behind, ((run.office m).desk loop).queue = before ++ .run ticket :: behind := by
    intro m later
    induction m, later using Nat.le_induction with
    | base => exact ⟨queue, waits⟩
    | succ m later inductionHypothesis => exact lasts m inductionHypothesis (untaken m later)
  obtain ⟨m, later, taken⟩ := run.takesUp loop (fun k => by
    obtain ⟨m, later, idle⟩ := run.idle_again loop (max n k)
    obtain ⟨behind, waiting⟩ := stays m (Nat.le_trans (Nat.le_max_left n k) later)
    refine ⟨m, Nat.le_trans (Nat.le_max_right n k) later, idle, ?_⟩
    rw [waiting]
    simp) n
  exact untaken m later taken

/-- A request in the queue is answered.

Induct over the commands before it, of which one less is left whenever the loop takes one. -/
theorem answers_waiting (ticket : Nat) (before queue : List Command) (n : Nat)
    (waits : ((run.office n).desk loop).queue = before ++ .run ticket :: queue) :
    ∃ m, n ≤ m ∧ ticket ∈ ((run.office m).desk loop).answers := by
  induction before generalizing n queue with
  | nil =>
    obtain ⟨m, later, ⟨behind, stays⟩, act, label, takes⟩ := run.queue_until loop n ticket waits
    rcases (run.turn_of_label label).of_takes takes stays with
      ⟨pass, rest, taken⟩ | answered | ⟨_, _, impossible, _⟩
    · obtain ⟨k, after, _, answered⟩ := run.finishes loop rest pass _ (m + 1) taken
      exact ⟨k, by omega, answered ticket rfl⟩
    · exact ⟨m + 1, Nat.le_succ_of_le later, answered⟩
    · cases impossible
  | cons first others inductionHypothesis =>
    obtain ⟨m, later, ⟨behind, stays⟩, act, label, takes⟩ := run.queue_until loop n ticket waits
    rcases (run.turn_of_label label).of_takes takes stays with
      ⟨pass, rest, taken⟩ | answered | ⟨_, _, same, moved⟩
    · obtain ⟨k, after, _, answered⟩ := run.finishes loop rest pass _ (m + 1) taken
      exact ⟨k, by omega, answered ticket rfl⟩
    · exact ⟨m + 1, Nat.le_succ_of_le later, answered⟩
    · cases same
      obtain ⟨k, after, answered⟩ := inductionHypothesis behind (m + 1) moved
      exact ⟨k, by omega, answered⟩

/-- What happens later in a run comes out of what happened before. -/
theorem leads {n m : Nat} (later : n ≤ m) :
    Office.Leads pipeline (run.office n) (run.office m) := by
  induction m, later using Nat.le_induction with
  | base => exact .refl
  | succ m _ inductionHypothesis => exact inductionHypothesis.tail ⟨_, run.steps m⟩

/-- A request that came in is answered, and from then on its log has just one answer to it. -/
theorem answers_once (kept : start.Kept) {n ticket : Nat}
    (came : requested ticket ∈ ((run.office n).desk loop).log) :
    ∃ m, n ≤ m ∧ ∀ k, m ≤ k → ((run.office k).desk loop).answers.count ticket = 1 := by
  have keptAtFirst : (run.office 0).Kept := by
    rw [run.starts]
    exact kept
  have keptAt : ∀ k, ((run.office k).desk loop).Kept ((run.office k).scheduler.isRunning loop) :=
    fun k => ((run.leads (Nat.zero_le k)).kept keptAtFirst).desks loop
  have answered : ∃ m, n ≤ m ∧ ticket ∈ ((run.office m).desk loop).answers := by
    have known := (keptAt n).requestLedger.accounted.mem_iff.mpr (Desk.mem_requests.mpr came)
    rw [List.append_assoc, List.mem_append, List.mem_append] at known
    rcases known with waits | attended | answered
    · obtain ⟨command, commandIn, own⟩ := List.mem_filterMap.mp waits
      cases command with
      | stop => cases own
      | run other =>
        cases own
        obtain ⟨before, queue, split⟩ := List.append_of_mem commandIn
        exact run.answers_waiting loop ticket before queue n split
    · cases underWay : ((run.office n).desk loop).work with
      | none =>
        rw [Desk.attended_of_work underWay] at attended
        cases attended
      | some work =>
        rw [Desk.attended_of_work underWay] at attended
        obtain ⟨m, later, _, answered⟩ :=
          run.finishes loop work.rest work.pass work.ticket n underWay
        exact ⟨m, later, answered ticket (Option.mem_toList.mp attended)⟩
    · exact ⟨n, Nat.le_refl n, answered⟩
  obtain ⟨m, later, answered⟩ := answered
  refine ⟨m, later, fun k after => List.count_eq_one_of_mem ?_ ?_⟩
  · exact (List.nodup_append.mp (keptAt k).requestLedger.once).2.1
  · exact (((run.leads after).log_suffix loop).filterMap answer?).subset answered

end FairRun

/-! ## Fair runs exist -/

namespace Office

variable {γ : Type} {pipeline : Pipeline γ} {office start later : Office γ}

/-- A turn of no concern to anybody leaves the office as it is. -/
theorem afterTurn_self (office : Office γ) (loop : LoopName) :
    office.afterTurn loop .arrive office.world (office.desk loop) = office :=
  congrArg (Office.mk office.scheduler office.world) (Function.update_eq_self loop office.desk)

/-- A loop can finish the pass under way, if there is one. -/
theorem leads_to_end_of_work (pipeline : Pipeline γ) (office : Office γ) (loop : LoopName) :
    ∃ later, Leads pipeline office later ∧ (later.desk loop).work = none ∧
      (later.desk loop).queue = (office.desk loop).queue ∧
        ∀ other, other ≠ loop → later.desk other = office.desk other := by
  cases underWay : (office.desk loop).work with
  | none => exact ⟨office, .refl, underWay, rfl, fun _ _ => rfl⟩
  | some work =>
    have ends : Leads pipeline (office.afterTurn loop .arrive office.world (office.desk loop)) _ :=
      leads_of_work rfl work.pass work.ticket work.rest underWay
    rw [afterTurn_self] at ends
    refine ⟨_, ends, ?_, ?_, fun other different => desk_afterTurn_of_ne office different⟩
    · rw [desk_afterTurn]
      rfl
    · rw [desk_afterTurn]
      rfl

/-- A loop can do all that is in its queue.

Induct over the queue. At an order to stop nothing is left of it. -/
theorem leads_to_empty_queue (pipeline : Pipeline γ) (loop : LoopName) (queue : List Command)
    (kept : office.Kept) (same : (office.desk loop).queue = queue) :
    ∃ later, Leads pipeline office later ∧
      ((later.desk loop).queue = [] ∧ (later.desk loop).work = none) ∧
        ∀ other, other ≠ loop → later.desk other = office.desk other := by
  induction queue generalizing office with
  | nil =>
    obtain ⟨rested, leads, idle, sameQueue, others⟩ :=
      leads_to_end_of_work pipeline office loop
    exact ⟨rested, leads, ⟨sameQueue.trans same, idle⟩, others⟩
  | cons command rest inductionHypothesis =>
    obtain ⟨rested, leads, idle, sameQueue, others⟩ :=
      leads_to_end_of_work pipeline office loop
    have next : (rested.desk loop).queue = command :: rest := sameQueue.trans same
    have running : rested.scheduler.isRunning loop = true := by
      by_contra stopped
      have ended := ((leads.kept kept).desks loop).halted (Bool.not_eq_true _ ▸ stopped)
      cases next.symm.trans ended.1
    cases command with
    | run ticket =>
      have taken : Leads pipeline office _ := leads.trans (leads_of_turn
        (.take running idle next (pipeline.isPass_pass Outage.none loop)))
      obtain ⟨later, leadsOn, done, othersThen⟩ := inductionHypothesis (Leads.kept taken kept)
        (congrArg Desk.queue (desk_afterTurn rested))
      refine ⟨later, taken.trans leadsOn, done, fun other different => ?_⟩
      rw [othersThen other different, desk_afterTurn_of_ne rested different, others other different]
    | stop =>
      have stops := leads.trans (leads_of_turn (.stop running idle next))
      refine ⟨_, stops, ?_, fun other different => ?_⟩
      · rw [desk_afterTurn]
        exact ⟨rfl, rfl⟩
      · rw [desk_afterTurn_of_ne rested different, others other different]

/-- An office can always become idle. -/
theorem leads_to_idle (pipeline : Pipeline γ) (kept : office.Kept) :
    ∃ later, Leads pipeline office later ∧ later.Idle := by
  obtain ⟨middle, leads, syncDone, _⟩ := leads_to_empty_queue pipeline .sync _ kept rfl
  obtain ⟨later, leadsOn, reconcileDone, others⟩ :=
    leads_to_empty_queue pipeline .reconcile _ (leads.kept kept) rfl
  refine ⟨later, leads.trans leadsOn, fun loop => ?_⟩
  cases loop with
  | sync => rwa [others .sync (by decide)]
  | reconcile => exact reconcileDone

end Office

namespace FairRun

variable {γ : Type} {pipeline : Pipeline γ} {first start later : Office γ}

/-- The run of an idle office in which nothing happens. -/
def still (idle : start.Idle) : FairRun pipeline start where
  office _ := start
  label _ := none
  starts := rfl
  steps _ := .elsewhere start.scheduler start.world (fun _ => rfl) rfl
  goesOn loop n := ⟨n, Nat.le_refl n, Or.inl (idle loop).2⟩
  takesUp loop waits := by
    obtain ⟨_, _, _, nonempty⟩ := waits 0
    exact absurd (idle loop).1 nonempty

/-- A run with a step before it. -/
def after {label : Option (Σ loop : LoopName, Act loop.Report)} (run : FairRun pipeline start)
    (step : Office.Step pipeline label first start) : FairRun pipeline first where
  office
    | 0 => first
    | n + 1 => run.office n
  label
    | 0 => label
    | n + 1 => run.label n
  starts := rfl
  steps
    | 0 => by
      show Office.Step pipeline label first (run.office 0)
      rw [run.starts]
      exact step
    | n + 1 => run.steps n
  goesOn loop n := by
    obtain ⟨m, later, happens⟩ := run.goesOn loop n
    exact ⟨m + 1, Nat.le_succ_of_le later, happens⟩
  takesUp loop waits n := by
    have waitsThen : ∀ k, ∃ m, k ≤ m ∧ ((run.office m).desk loop).work = none ∧
        ((run.office m).desk loop).queue ≠ [] := by
      intro k
      obtain ⟨m, later, waiting⟩ := waits (k + 1)
      cases m with
      | zero => cases later
      | succ m => exact ⟨m, Nat.le_of_succ_le_succ later, waiting⟩
    obtain ⟨m, later, taken⟩ := run.takesUp loop waitsThen n
    exact ⟨m + 1, Nat.le_succ_of_le later, taken⟩

/-- A run can be what happens after some steps. -/
theorem exists_after (leads : Office.Leads pipeline first start) (run : FairRun pipeline start) :
    ∃ (whole : FairRun pipeline first) (n : Nat), whole.office n = start := by
  induction leads using Relation.ReflTransGen.head_induction_on with
  | refl => exact ⟨run, 0, run.starts⟩
  | head step _ inductionHypothesis =>
    obtain ⟨whole, n, reached⟩ := inductionHypothesis
    obtain ⟨_, step⟩ := step
    exact ⟨whole.after step, n + 1, reached⟩

/-- Whatever can happen in an office happens in a fair run. -/
theorem exists_of_leads (kept : start.Kept) (leads : Office.Leads pipeline start later) :
    ∃ (run : FairRun pipeline start) (n : Nat), run.office n = later := by
  obtain ⟨idle, leadsOn, rests⟩ := Office.leads_to_idle pipeline (leads.kept kept)
  obtain ⟨rest, _⟩ := exists_after leadsOn (still rests)
  exact exists_after leads rest

end FairRun

/-! ## All orders of events -/

/-- Whatever happens at the desks of the two loops, and in whichever order: their logs are lawful,
the scheduler is ready exactly when a reconciliation pass has succeeded so far and remains so, and
in a fair run every request is answered and has one answer from then on.

All that a scheduler that runs does is among what can happen. An office that is left alone takes the
same signals with the same answers, so ticks make passes and orders to stop end their loops, and it
comes to the same state. Each request that the scheduler has answered is in the log with that
answer. -/
theorem Office.loops_answer_every_request {γ : Type} (pipeline : Pipeline γ)
    (syncSeconds reconcileSeconds : Nat) (world : World γ) :
    (∀ office, Leads pipeline (opened syncSeconds reconcileSeconds world) office →
      office.Sound ∧ ∀ later, Leads pipeline office later → office.scheduler.ready = true →
        later.scheduler.ready = true) ∧
      (∀ (run : FairRun pipeline (opened syncSeconds reconcileSeconds world)) (loop : LoopName)
        (n ticket : Nat), requested ticket ∈ ((run.office n).desk loop).log →
          ∃ m, n ≤ m ∧ ∀ k, m ≤ k → ((run.office k).desk loop).answers.count ticket = 1) ∧
      ∀ takings reached,
        Scheduler.Executed pipeline syncSeconds reconcileSeconds world takings reached →
          ∃ office, Leads pipeline (opened syncSeconds reconcileSeconds world) office ∧
            office.Idle ∧ office.scheduler = reached.1 ∧ office.world = reached.2 ∧
            LeftAlone pipeline (opened syncSeconds reconcileSeconds world) takings office ∧
            ∀ taking ∈ takings, taking.signal = .run → ∃ ticket result,
              answered ticket result ∈ (office.desk taking.loop).log ∧
                taking.answer = taking.loop.answer result := by
  have kept := opened_kept syncSeconds reconcileSeconds world
  refine ⟨?_, ?_, ?_⟩
  · intro office leads
    exact ⟨(leads.kept kept).sound, fun later leadsOn => leadsOn.ready (leads.kept kept)⟩
  · intro run loop n ticket came
    exact run.answers_once loop kept came
  · intro takings reached executed
    have idle : (opened syncSeconds reconcileSeconds world).Idle := fun _ => ⟨rfl, rfl⟩
    obtain ⟨office, alone, rfl⟩ := exists_leftAlone executed
    obtain ⟨leads, idleThen⟩ := alone.leads idle
    exact ⟨office, leads, idleThen, rfl, rfl, alone, alone.exists_answered idle⟩

/-! ## A request before the end and one after it -/

namespace Tour

open Office

/-- A scheduler that has just started, and the world then. -/
def started : Scheduler × World Unit :=
  Scheduler.start (pipeline plainCoding) Outage.none 5 7 (World.initial ())

/-- A scheduler that runs is asked for a reconciliation pass, its loop is stopped, and another pass
is asked for: the first request is served and makes the scheduler ready, the second is refused. The
same happens in a fair run, where neither request is ever answered again. -/
theorem served_and_refused :
    ∃ (takings : List Taking) (reached : Scheduler × World Unit)
      (run : FairRun (pipeline plainCoding) (opened 5 7 (World.initial ()))) (n first second : Nat)
      (report : ReconcileReport),
      Scheduler.Executed (pipeline plainCoding) 5 7 (World.initial ()) takings reached ∧
      takings.map Taking.answer = [.reconcile (.error .stopped), .none, .reconcile (.ok report),
        .none, .none] ∧
      (run.office n).scheduler = reached.1 ∧ (run.office n).world = reached.2 ∧
      Served ((run.office n).desk .reconcile).log first (.ok report) ∧
      answered second (.error .stopped) ∈ ((run.office n).desk .reconcile).log ∧
      (run.office n).scheduler.ready = true ∧
      ∃ m, n ≤ m ∧ ∀ k, m ≤ k → ((run.office k).desk .reconcile).answers.count first = 1 ∧
        ((run.office k).desk .reconcile).answers.count second = 1 := by
  have starts : Scheduler.Executed (pipeline plainCoding) 5 7 (World.initial ()) _ started :=
    .start Outage.none
  have executed := ((starts.take Outage.none .reconcile .run).take Outage.none .reconcile
    .stop).take Outage.none .reconcile .run
  obtain ⟨report, succeeds⟩ : ∃ report, (Scheduler.take (pipeline plainCoding) Outage.none
      .reconcile .run started.1 started.2).1 = .reconcile (.ok report) := ⟨_, rfl⟩
  obtain ⟨always, inTheEnd, follows⟩ :=
    loops_answer_every_request (pipeline plainCoding) 5 7 (World.initial ())
  obtain ⟨office, leads, _, sameScheduler, sameWorld, _, logged⟩ := follows _ _ executed
  obtain ⟨sound, _⟩ := always office leads
  -- The signals are listed with the latest one first.
  obtain ⟨second, refusal, secondIn, secondTold⟩ := logged _ List.mem_cons_self rfl
  obtain ⟨first, result, firstIn, firstTold⟩ :=
    logged _ (List.mem_cons_of_mem _ (List.mem_cons_of_mem _ List.mem_cons_self)) rfl
  obtain rfl : result = .ok report := Answer.reconcile.inj (firstTold.symm.trans succeeds)
  obtain rfl : refusal = .error .stopped := Answer.reconcile.inj secondTold.symm
  have served : Served (office.desk .reconcile).log first (.ok report) := by
    rcases (sound.desks .reconcile).settled _ _ firstIn with served | ⟨impossible, _⟩
    · exact served
    · cases impossible
  have ready : office.scheduler.ready = true := by
    obtain ⟨pass, inOrder⟩ := served
    exact sound.ready_iff.mpr ⟨pass, report, inOrder.subset (by simp)⟩
  obtain ⟨run, n, rfl⟩ := FairRun.exists_of_leads (opened_kept 5 7 (World.initial ())) leads
  have came : ∀ ticket result, answered ticket result ∈ ((run.office n).desk .reconcile).log →
      requested ticket ∈ ((run.office n).desk .reconcile).log := by
    intro ticket result given
    rcases (sound.desks .reconcile).settled ticket result given with
      ⟨_, inOrder⟩ | ⟨_, _, inOrder, _⟩
    · exact inOrder.subset (by simp)
    · exact inOrder.subset (by simp)
  obtain ⟨m, later, onceFirst⟩ := inTheEnd run .reconcile n _ (came _ _ firstIn)
  obtain ⟨k, laterToo, onceSecond⟩ := inTheEnd run .reconcile n _ (came _ _ secondIn)
  refine ⟨_, _, run, n, first, second, report, executed, ?_, sameScheduler, sameWorld, served,
    secondIn, ready, max m k, Nat.le_trans later (Nat.le_max_left m k),
    fun j after => ⟨onceFirst j ?_, onceSecond j ?_⟩⟩
  · show [_, _, _, _, _] = _
    rw [succeeds]
    rfl
  · exact Nat.le_trans (Nat.le_max_left m k) after
  · exact Nat.le_trans (Nat.le_max_right m k) after

end Tour

end Syndication
