import Mathlib.Data.List.Basic
import Mathlib.Data.List.Nodup
import Syndication.Proofs.Schedule.Desk

/-!
# The laws of a desk

Every request is answered once and not twice: at any time it waits, is attended to or was answered.
Passes follow one another, and each is the pass of one request or of the timer. An answer is the
result of a pass that began after the request had come in, or it refuses a request that the loop
stopped without having taken. After that no pass begins, and every request that comes in is refused.

The log has the latest event first, so what is said about the order of events is said about sublists
of the log, to be read backwards. `Desk.Lawful` says the laws, `Desk.Kept` adds how the work under
way relates to the log, and every turn preserves the two together.
-/

namespace Syndication

/-- Numbers are issued below a bound, no number twice, and each is open or closed. -/
structure Ledger (bound : Nat) (opened closed issued : List Nat) : Prop where
  distinct : issued.Nodup
  accounted : (opened ++ closed).Perm issued
  below : ∀ number ∈ issued, number < bound

namespace Ledger

variable {bound later : Nat} {opened closed issued openedThen closedThen : List Nat}

/-- The next number is issued, and is open or closed at once. -/
theorem issue (ledger : Ledger bound opened closed issued)
    (joined : (openedThen ++ closedThen).Perm (bound :: (opened ++ closed)))
    (above : bound < later) : Ledger later openedThen closedThen (bound :: issued) where
  distinct := List.nodup_cons.mpr
    ⟨fun member => Nat.lt_irrefl bound (ledger.below bound member), ledger.distinct⟩
  accounted := joined.trans (ledger.accounted.cons bound)
  below := by
    rintro number (_ | ⟨_, member⟩)
    · exact above
    · exact Nat.lt_trans (ledger.below number member) above

/-- Numbers that are open may be closed. -/
theorem move (ledger : Ledger bound opened closed issued)
    (moved : (openedThen ++ closedThen).Perm (opened ++ closed)) (above : bound ≤ later) :
    Ledger later openedThen closedThen issued where
  distinct := ledger.distinct
  accounted := moved.trans ledger.accounted
  below number member := Nat.lt_of_lt_of_le (ledger.below number member) above

/-- No number is open or closed twice. -/
theorem once (ledger : Ledger bound opened closed issued) : (opened ++ closed).Nodup :=
  ledger.accounted.nodup_iff.mpr ledger.distinct

/-- The bound is neither open nor closed. -/
theorem fresh (ledger : Ledger bound opened closed issued) : bound ∉ opened ++ closed :=
  fun member => Nat.lt_irrefl bound (ledger.below bound (ledger.accounted.subset member))

end Ledger

namespace DeskEvent

variable {ρ : Type}

/-- A request was answered with the result of a pass that began for it after it had come in. -/
def Served (log : List (DeskEvent ρ)) (ticket : Nat) (result : Except PipelineError ρ) : Prop :=
  ∃ pass, [answered ticket result, finished pass result, began pass (some ticket),
    requested ticket].Sublist log

/-- A request was refused: the loop had stopped, and no pass ever began for the request. -/
def Refused (log : List (DeskEvent ρ)) (ticket : Nat) (result : Except PipelineError ρ) : Prop :=
  result = .error .stopped ∧ [answered ticket result, stopped].Sublist log ∧
    [answered ticket result, requested ticket].Sublist log ∧
      ∀ pass, began pass (some ticket) ∉ log

end DeskEvent

open DeskEvent

namespace Desk

variable {γ ρ : Type}

/-- Every request has a ticket of its own, and it is waiting, attended to or answered, just one of
these and once. -/
def RequestLedger (desk : Desk γ ρ) : Prop :=
  Ledger desk.log.length (desk.waiting ++ desk.attended) desk.answers desk.requests

/-- Every pass has a number of its own, and it is under way or over, just one of these and once. -/
def PassLedger (desk : Desk γ ρ) : Prop :=
  Ledger desk.log.length desk.underWay desk.ended desk.begun

/-- What holds of a desk at all times. The log has the latest event first. -/
structure Lawful (running : Bool) (desk : Desk γ ρ) : Prop where
  /-- Requests are accounted for. -/
  requestLedger : desk.RequestLedger
  /-- Passes are accounted for. -/
  passLedger : desk.PassLedger
  /-- Passes do not overlap: before the later one of two begins, the earlier one is over. -/
  apart : ∀ first second ticket other,
    [began second other, began first ticket].Sublist desk.log → ∃ result,
      [began second other, finished first result, began first ticket].Sublist desk.log
  /-- An answer is the result of a pass of its own, or it refuses the request. -/
  settled : ∀ ticket result, answered ticket result ∈ desk.log →
    Served desk.log ticket result ∨ Refused desk.log ticket result
  /-- The loop runs until it takes an order to stop. -/
  stopped_iff : stopped ∈ desk.log ↔ running = false
  /-- No pass begins after that. -/
  final : ∀ pass ticket, ¬[began pass ticket, stopped].Sublist desk.log
  /-- A request that comes in after that is refused. -/
  late : ∀ ticket, [requested ticket, stopped].Sublist desk.log →
    [answered ticket (.error .stopped), requested ticket, stopped].Sublist desk.log

/-- The laws of a desk with what they rest on: how the work under way relates to the log. -/
structure Kept (running : Bool) (desk : Desk γ ρ) : Prop extends Lawful running desk where
  /-- A stopped loop has nothing to do. -/
  halted : running = false → desk.queue = [] ∧ desk.work = none
  /-- The pass under way began for its request after that had come in. -/
  attending : ∀ work, desk.work = some work → began work.pass work.ticket ∈ desk.log ∧
    ∀ ticket, work.ticket = some ticket →
      [began work.pass (some ticket), requested ticket].Sublist desk.log
  /-- A request for which a pass began does not wait any more. -/
  taken : ∀ pass ticket, began pass (some ticket) ∈ desk.log →
    ticket ∈ desk.attended ∨ ticket ∈ desk.answers
  /-- A pass that began is under way or was finished since. -/
  concluded : ∀ pass ticket, began pass ticket ∈ desk.log → pass ∈ desk.underWay ∨
    ∃ result, [finished pass result, began pass ticket].Sublist desk.log

end Desk

/-! ## Events in order -/

namespace DeskEvent

variable {ρ : Type} {event : DeskEvent ρ} {rest events log : List (DeskEvent ρ)}
  {tickets : List Nat} {result : Except PipelineError ρ}

/-- What begins with an event that is not new was there before. -/
theorem sublist_of_not_mem (events : List (DeskEvent ρ)) (old : event ∉ events)
    (found : (event :: rest).Sublist (events ++ log)) : (event :: rest).Sublist log := by
  induction events with
  | nil => exact found
  | cons head tail inductionHypothesis =>
    obtain ⟨differs, oldInTail⟩ := not_or.mp (mt List.mem_cons.mpr old)
    rcases List.cons_sublist_cons'.mp found with deeper | ⟨same, _⟩
    · exact inductionHypothesis oldInTail deeper
    · exact absurd same differs

/-- Answers tell nothing about other events. -/
theorem filterMap_answered (tell : DeskEvent ρ → Option Nat)
    (silent : ∀ ticket, tell (answered ticket result) = none) :
    (tickets.map (answered · result) ++ log).filterMap tell = log.filterMap tell := by
  simp [List.filterMap_append, silent]

/-- Answers tell their tickets. -/
theorem filterMap_answer? : (tickets.map (answered · result) ++ log).filterMap answer? =
    tickets ++ log.filterMap answer? := by
  simp [List.filterMap_append, answer?, Function.comp_def]

/-- A request that was served was so ever since. -/
theorem Served.mono {ticket : Nat} (served : Served log ticket result) :
    Served (events ++ log) ticket result := by
  obtain ⟨pass, inOrder⟩ := served
  exact ⟨pass, List.sublist_append_of_sublist_right inOrder⟩

/-- A request that was refused was so ever since, as long as no pass begins. -/
theorem Refused.mono {ticket : Nat} (refused : Refused log ticket result)
    (silent : ∀ pass other, began pass other ∉ events) :
    Refused (events ++ log) ticket result := by
  obtain ⟨same, afterEnd, afterRequest, untaken⟩ := refused
  refine ⟨same, List.sublist_append_of_sublist_right afterEnd,
    List.sublist_append_of_sublist_right afterRequest, ?_⟩
  intro pass member
  rcases List.mem_append.mp member with new | old
  · exact silent pass _ new
  · exact untaken pass old

end DeskEvent

/-! ## What a turn preserves -/

namespace Desk

variable {γ ρ : Type} {isPass : Attempt (World γ) PipelineError ρ → Prop} {running : Bool}
  {world after : World γ} {act : Act ρ} {desk later : Desk γ ρ}

/-- The events of an end. -/
theorem log_close (queue : List Command) : (desk.close queue).log =
    ((queue.filterMap Command.ticket?).map (answered · (.error .stopped)) ++ [stopped]) ++
      desk.log := List.append_cons ..

/-- The events of the end of a pass. -/
theorem log_conclude (work : Work γ ρ) (result : Except PipelineError ρ) :
    (desk.conclude work result).log =
      (work.ticket.toList.map (answered · result) ++ [finished work.pass result]) ++ desk.log :=
  List.append_cons ..

/-- The requests in the queue are answered when the loop ends. -/
theorem answers_close (queue : List Command) : (desk.close queue).answers =
    queue.filterMap Command.ticket? ++ desk.answers := filterMap_answer?

/-- The request of a pass is answered when the pass is over. -/
theorem answers_conclude (work : Work γ ρ) (result : Except PipelineError ρ) :
    (desk.conclude work result).answers = work.ticket.toList ++ desk.answers := filterMap_answer?

/-- The log tells which requests came in. -/
theorem mem_requests {ticket : Nat} : ticket ∈ desk.requests ↔ requested ticket ∈ desk.log := by
  constructor
  · intro member
    obtain ⟨event, eventIn, told⟩ := List.mem_filterMap.mp member
    cases event with
    | requested other =>
      cases told
      exact eventIn
    | _ => cases told
  · exact fun eventIn => List.mem_filterMap.mpr ⟨_, eventIn, rfl⟩

/-- The requests in a queue are those of its commands. -/
theorem waiting_of_queue {queue : List Command} (same : desk.queue = queue) :
    desk.waiting = queue.filterMap Command.ticket? := congrArg _ same

/-- The request attended to is that of the work under way. -/
theorem attended_of_work {work : Option (Work γ ρ)} (same : desk.work = work) :
    desk.attended = (work.bind Work.ticket).toList :=
  congrArg (fun work : Option (Work γ ρ) => (work.bind Work.ticket).toList) same

/-- The pass under way is that of the work. -/
theorem underWay_of_work {work : Option (Work γ ρ)} (same : desk.work = work) :
    desk.underWay = (work.map Work.pass).toList :=
  congrArg (fun work : Option (Work γ ρ) => (work.map Work.pass).toList) same

/-- Every turn keeps the ledger of the requests. -/
theorem Turn.requestLedger (turn : Turn isPass running world desk act after later)
    (ledger : desk.RequestLedger) : later.RequestLedger := by
  unfold RequestLedger at *
  cases turn with
  | receive accepting =>
    have joins : desk.receive.waiting = desk.waiting ++ [desk.log.length] := by
      simp [Desk.receive, waiting, Command.ticket?]
    refine ledger.issue ?_ (Nat.lt_succ_self _)
    rw [joins]
    simp only [List.append_assoc, List.singleton_append]
    exact List.perm_middle
  | refuse halted => exact ledger.issue List.perm_middle (Nat.lt_succ_of_lt (Nat.lt_succ_self _))
  | order accepting =>
    have same : desk.order.waiting = desk.waiting := by
      simp [Desk.order, waiting, Command.ticket?]
    refine ledger.move ?_ (Nat.le_refl _)
    rw [same]
    rfl
  | tick accepting idle own =>
    rw [attended_of_work idle] at ledger
    exact ledger.move (.refl _) (Nat.le_succ _)
  | @take ticket queue pass accepting idle next own =>
    rw [attended_of_work idle, waiting_of_queue next] at ledger
    refine ledger.move (List.Perm.append_right _ ?_) (Nat.le_succ _)
    show (queue.filterMap Command.ticket? ++ [ticket]).Perm
      (ticket :: queue.filterMap Command.ticket? ++ [])
    rw [List.append_nil]
    exact List.perm_append_singleton ticket _
  | @stop queue accepting idle next =>
    rw [attended_of_work idle, waiting_of_queue next] at ledger
    have requests : (desk.close queue).requests = desk.requests := filterMap_answered _ fun _ => rfl
    rw [requests, answers_close]
    refine ledger.move ?_ (by simp [close]; omega)
    show (queue.filterMap Command.ticket? ++ desk.answers).Perm
      (queue.filterMap Command.ticket? ++ [] ++ desk.answers)
    rw [List.append_nil]
  | proceed underWay left =>
    rw [attended_of_work underWay] at ledger
    exact ledger.move (.refl _) (Nat.le_refl _)
  | @finish work result underWay left =>
    rw [attended_of_work underWay] at ledger
    have requests : (desk.conclude work result).requests = desk.requests :=
      filterMap_answered _ fun _ => rfl
    rw [requests, answers_conclude]
    refine ledger.move ?_ (by simp [conclude]; omega)
    show (desk.waiting ++ [] ++ (work.ticket.toList ++ desk.answers)).Perm _
    rw [List.append_nil, ← List.append_assoc]
    rfl

/-- Every turn keeps the ledger of the passes. -/
theorem Turn.passLedger (turn : Turn isPass running world desk act after later)
    (ledger : desk.PassLedger) : later.PassLedger := by
  unfold PassLedger at *
  cases turn with
  | receive accepting => exact ledger.move (.refl _) (Nat.le_succ _)
  | refuse halted => exact ledger.move (.refl _) (Nat.le_add_right _ 2)
  | order accepting => exact ledger
  | tick accepting idle own =>
    rw [underWay_of_work idle] at ledger
    exact ledger.issue (.refl _) (Nat.lt_succ_self _)
  | take accepting idle next own =>
    rw [underWay_of_work idle] at ledger
    exact ledger.issue (.refl _) (Nat.lt_succ_self _)
  | @stop queue accepting idle next =>
    rw [underWay_of_work idle] at ledger
    have begun : (desk.close queue).begun = desk.begun := filterMap_answered _ fun _ => rfl
    have ended : (desk.close queue).ended = desk.ended := filterMap_answered _ fun _ => rfl
    rw [begun, ended]
    exact ledger.move (.refl _) (by simp [close]; omega)
  | proceed underWay left =>
    rw [underWay_of_work underWay] at ledger
    exact ledger
  | @finish work result underWay left =>
    rw [underWay_of_work underWay] at ledger
    have begun : (desk.conclude work result).begun = desk.begun := filterMap_answered _ fun _ => rfl
    have ended : (desk.conclude work result).ended = work.pass :: desk.ended :=
      filterMap_answered _ fun _ => rfl
    rw [begun, ended]
    exact ledger.move (.refl _) (by simp [conclude]; omega)

/-- A request that waits has come in. -/
theorem Kept.asked (kept : desk.Kept running) {ticket : Nat} (waits : ticket ∈ desk.waiting) :
    requested ticket ∈ desk.log := by
  have known : ticket ∈ desk.waiting ++ desk.attended ++ desk.answers := by simp [waits]
  exact mem_requests.mp (kept.requestLedger.accounted.subset known)

/-- No pass began for a request that waits. -/
theorem Kept.untaken (kept : desk.Kept running) {ticket : Nat} (waits : ticket ∈ desk.waiting)
    (pass : Nat) : began pass (some ticket) ∉ desk.log := by
  intro begun
  have once := kept.requestLedger.once
  rw [List.append_assoc] at once
  exact List.disjoint_of_nodup_append once waits
    (List.mem_append.mpr (kept.taken pass ticket begun))

/-- As long as a loop runs, its log has no end. -/
theorem Kept.not_stopped (kept : desk.Kept running) (accepting : running = true) :
    stopped ∉ desk.log := by
  intro ended
  cases accepting.symm.trans (kept.stopped_iff.mp ended)

/-- A turn begins a pass, which only an idle loop that has not stopped does, or it adds events to
the log of which none begins a pass. -/
theorem Turn.begins_or (turn : Turn isPass running world desk act after later) :
    (running = true ∧ desk.work = none ∧ ∃ queue ticket pass,
      (∀ request, ticket = some request → request ∈ desk.waiting) ∧
        later = desk.begin queue ticket pass) ∨
      ∃ events, (∀ pass ticket, began pass ticket ∉ events) ∧ later.log = events ++ desk.log := by
  cases turn with
  | receive accepting => exact Or.inr ⟨[_], by simp, rfl⟩
  | refuse halted => exact Or.inr ⟨[_, _], by simp, rfl⟩
  | order accepting => exact Or.inr ⟨[], by simp, rfl⟩
  | tick accepting idle own => exact Or.inl ⟨accepting, idle, desk.queue, none, _, nofun, rfl⟩
  | take accepting idle next own =>
    refine Or.inl ⟨accepting, idle, _, _, _, ?_, rfl⟩
    intro request same
    rw [waiting_of_queue next, ← Option.some.inj same]
    exact List.mem_cons_self
  | stop accepting idle next => exact Or.inr ⟨_, by simp, log_close _⟩
  | proceed underWay left => exact Or.inr ⟨[], by simp, rfl⟩
  | finish underWay left => exact Or.inr ⟨_, by simp, log_conclude _ _⟩

/-- A turn adds to the log and leaves what is there. -/
theorem Turn.log_suffix (turn : Turn isPass running world desk act after later) :
    desk.log.IsSuffix later.log := by
  obtain ⟨_, _, queue, ticket, pass, _, rfl⟩ | ⟨events, _, grown⟩ := turn.begins_or
  · exact ⟨[_], rfl⟩
  · exact ⟨events, grown.symm⟩

/-- Passes stay apart. -/
theorem Turn.apart (turn : Turn isPass running world desk act after later)
    (kept : desk.Kept running) (first second : Nat) (ticket other : Option Nat)
    (began : [began second other, began first ticket].Sublist later.log) : ∃ result,
      [DeskEvent.began second other, finished first result,
        DeskEvent.began first ticket].Sublist later.log := by
  obtain ⟨_, idle, queue, own, pass, _, rfl⟩ | ⟨events, silent, grown⟩ := turn.begins_or
  · -- The pass that begins finds no pass under way, so all before it are over.
    rcases List.cons_sublist_cons'.mp began with old | ⟨same, earlier⟩
    · obtain ⟨result, inOrder⟩ := kept.apart first second ticket other old
      exact ⟨result, inOrder.cons _⟩
    · rcases kept.concluded first ticket (List.singleton_sublist.mp earlier) with still | ended
      · rw [underWay_of_work idle] at still
        cases still
      · obtain ⟨result, inOrder⟩ := ended
        exact ⟨result, same ▸ inOrder.cons_cons _⟩
  · rw [grown] at began ⊢
    obtain ⟨result, inOrder⟩ := kept.apart first second ticket other
      (sublist_of_not_mem events (silent second other) began)
    exact ⟨result, List.sublist_append_of_sublist_right inOrder⟩

/-- No pass begins after the loop has stopped. -/
theorem Turn.final (turn : Turn isPass running world desk act after later)
    (kept : desk.Kept running) (pass : Nat) (ticket : Option Nat) :
    ¬[began pass ticket, stopped].Sublist later.log := by
  intro began
  obtain ⟨accepting, _, queue, own, rest, _, rfl⟩ | ⟨events, silent, grown⟩ := turn.begins_or
  · rcases List.cons_sublist_cons'.mp began with old | ⟨_, ended⟩
    · exact kept.final pass ticket old
    · exact absurd (List.singleton_sublist.mp ended) (kept.not_stopped accepting)
  · rw [grown] at began
    exact kept.final pass ticket (sublist_of_not_mem events (silent pass ticket) began)

/-- The log tells whether the loop has stopped. -/
theorem Turn.stopped_iff (turn : Turn isPass running world desk act after later)
    (kept : desk.Kept running) : stopped ∈ later.log ↔ act.leavesRunning running = false := by
  have told := kept.stopped_iff
  cases turn with
  | stop accepting idle next => simp [close, Act.leavesRunning]
  | finish underWay left => simpa [conclude, Act.leavesRunning] using told
  | _ => simpa [Desk.receive, Desk.refuse, Desk.order, begin, Desk.proceed, Act.leavesRunning]
      using told

/-- A request that comes in after the end is refused. -/
theorem Turn.late (turn : Turn isPass running world desk act after later)
    (kept : desk.Kept running) (ticket : Nat)
    (inOrder : [requested ticket, stopped].Sublist later.log) :
    [answered ticket (.error .stopped), requested ticket, stopped].Sublist later.log := by
  have old : [requested ticket, stopped].Sublist desk.log →
      [answered ticket (.error .stopped), requested ticket, stopped].Sublist desk.log :=
    kept.late ticket
  cases turn with
  | receive accepting =>
    rcases List.cons_sublist_cons'.mp inOrder with earlier | ⟨_, ended⟩
    · exact (old earlier).cons _
    · exact absurd (List.singleton_sublist.mp ended) (kept.not_stopped accepting)
  | refuse halted =>
    rcases List.cons_sublist_cons'.mp inOrder with earlier | ⟨same, _⟩
    · rcases List.cons_sublist_cons'.mp earlier with earlier | ⟨same, ended⟩
      · exact ((old earlier).cons _).cons _
      · cases same
        exact (ended.cons_cons _).cons_cons _
    · cases same
  | order accepting => exact old inOrder
  | tick accepting idle own =>
    exact (old (sublist_of_not_mem [_] (by simp) inOrder)).cons _
  | take accepting idle next own =>
    exact (old (sublist_of_not_mem [_] (by simp) inOrder)).cons _
  | stop accepting idle next =>
    have inEnd := sublist_of_not_mem _ (by simp) inOrder
    rcases List.cons_sublist_cons'.mp inEnd with earlier | ⟨same, _⟩
    · exact absurd (earlier.subset (by simp)) (kept.not_stopped accepting)
    · cases same
  | proceed underWay left => exact old inOrder
  | finish underWay left =>
    have inEnd := sublist_of_not_mem _ (by simp) inOrder
    rcases List.cons_sublist_cons'.mp inEnd with earlier | ⟨same, _⟩
    · exact List.sublist_append_of_sublist_right ((old earlier).cons _)
    · cases same

/-- Answers stay what they are, and new ones are results of passes or refusals. -/
theorem Turn.settled (turn : Turn isPass running world desk act after later)
    (kept : desk.Kept running) (ticket : Nat) (result : Except PipelineError ρ)
    (given : answered ticket result ∈ later.log) :
    Served later.log ticket result ∨ Refused later.log ticket result := by
  have old : ∀ events, (∀ pass other, began pass other ∉ events) →
      answered ticket result ∈ desk.log →
      Served (events ++ desk.log) ticket result ∨ Refused (events ++ desk.log) ticket result :=
    fun events silent earlier => (kept.settled ticket result earlier).imp Served.mono
      fun refused => refused.mono silent
  -- When a pass begins the loop has not stopped, so nothing was refused before.
  have served : ∀ event, running = true → answered ticket result ∈ event :: desk.log →
      event ≠ answered ticket result → Served ([event] ++ desk.log) ticket result := by
    intro event accepting earlier other
    have given := (List.mem_cons.mp earlier).resolve_left other.symm
    rcases kept.settled ticket result given with served | ⟨_, ended, _⟩
    · exact served.mono
    · exact absurd (ended.subset (by simp)) (kept.not_stopped accepting)
  cases turn with
  | receive accepting => exact old [_] (by simp) ((List.mem_cons.mp given).resolve_left nofun)
  | refuse halted =>
    rcases List.mem_cons.mp given with same | earlier
    · cases same
      have ended := kept.stopped_iff.mpr halted
      refine Or.inr ⟨rfl, ((List.singleton_sublist.mpr ended).cons _).cons_cons _,
        (List.singleton_sublist.mpr List.mem_cons_self).cons_cons _, ?_⟩
      intro pass member
      have taken := kept.taken pass desk.log.length (by simpa [Desk.refuse] using member)
      apply kept.requestLedger.fresh
      rw [List.append_assoc, List.mem_append, List.mem_append]
      exact Or.inr taken
    · exact old [_, _] (by simp) ((List.mem_cons.mp earlier).resolve_left nofun)
  | order accepting => exact old [] (by simp) given
  | tick accepting idle own => exact Or.inl (served _ accepting given nofun)
  | take accepting idle next own => exact Or.inl (served _ accepting given nofun)
  | @stop queue accepting idle next =>
    by_cases earlier : answered ticket result ∈ desk.log
    · rw [log_close]
      exact old _ (by simp) earlier
    · rw [log_close, List.mem_append, or_iff_left earlier] at given
      obtain ⟨waits, rfl⟩ :
          ticket ∈ queue.filterMap Command.ticket? ∧ result = .error .stopped := by
        simpa [eq_comm] using given
      have waiting : ticket ∈ desk.waiting := by
        rw [waiting_of_queue next]
        exact waits
      have refusal : [answered ticket (.error .stopped)].Sublist ((queue.filterMap
          Command.ticket?).map fun ticket => (answered ticket (.error .stopped) : DeskEvent ρ)) :=
        List.singleton_sublist.mpr (List.mem_map_of_mem waits)
      have asked := List.singleton_sublist.mpr (kept.asked waiting)
      refine Or.inr ⟨rfl, refusal.append (List.singleton_sublist.mpr List.mem_cons_self),
        refusal.append (asked.cons _), fun pass member => kept.untaken waiting pass ?_⟩
      simpa [close] using member
  | proceed underWay left => exact old [] (by simp) given
  | @finish work outcome underWay left =>
    by_cases earlier : answered ticket result ∈ desk.log
    · rw [log_conclude]
      exact old _ (by simp) earlier
    · rw [log_conclude, List.mem_append, or_iff_left earlier] at given
      obtain ⟨own, rfl⟩ : work.ticket = some ticket ∧ result = outcome := by
        simpa [eq_comm] using given
      have inOrder := (kept.attending work underWay).2 ticket own
      refine Or.inl ⟨work.pass, ?_⟩
      rw [conclude, own]
      exact (inOrder.cons_cons _).cons_cons _

/-- A stopped loop has nothing to do. -/
theorem Turn.halted (turn : Turn isPass running world desk act after later)
    (kept : desk.Kept running) (ended : act.leavesRunning running = false) :
    later.queue = [] ∧ later.work = none := by
  cases turn with
  | receive accepting => cases accepting.symm.trans ended
  | refuse halted => exact kept.halted halted
  | order accepting => cases accepting.symm.trans ended
  | tick accepting idle own => cases accepting.symm.trans ended
  | take accepting idle next own => cases accepting.symm.trans ended
  | stop accepting idle next => exact ⟨rfl, rfl⟩
  | proceed underWay left => cases underWay.symm.trans (kept.halted ended).2
  | finish underWay left => cases underWay.symm.trans (kept.halted ended).2

/-- The pass under way began for its request after that had come in. -/
theorem Turn.attending (turn : Turn isPass running world desk act after later)
    (kept : desk.Kept running) (work : Work γ ρ) (underWay : later.work = some work) :
    began work.pass work.ticket ∈ later.log ∧ ∀ ticket, work.ticket = some ticket →
      [began work.pass (some ticket), requested ticket].Sublist later.log := by
  have old : ∀ events, desk.work = some work → began work.pass work.ticket ∈ events ++ desk.log ∧
      ∀ ticket, work.ticket = some ticket →
        [began work.pass (some ticket), requested ticket].Sublist (events ++ desk.log) := by
    intro events underWay
    obtain ⟨begun, inOrder⟩ := kept.attending work underWay
    exact ⟨List.mem_append_right events begun, fun ticket own =>
      List.sublist_append_of_sublist_right (inOrder ticket own)⟩
  cases turn with
  | receive accepting => exact old [_] underWay
  | refuse halted => exact old [_, _] underWay
  | order accepting => exact old [] underWay
  | tick accepting idle own =>
    cases underWay
    exact ⟨List.mem_cons_self, nofun⟩
  | @take ticket queue pass accepting idle next own =>
    cases underWay
    refine ⟨List.mem_cons_self, ?_⟩
    rintro _ ⟨rfl⟩
    have waiting : ticket ∈ desk.waiting := by
      rw [waiting_of_queue next]
      exact List.mem_cons_self
    exact (List.singleton_sublist.mpr (kept.asked waiting)).cons_cons _
  | stop accepting idle next => cases underWay
  | proceed underWayBefore left =>
    cases underWay
    obtain ⟨begun, inOrder⟩ := kept.attending _ underWayBefore
    exact ⟨begun, inOrder⟩
  | finish underWayBefore left => cases underWay

/-- A request for which a pass began is attended to or answered. -/
theorem Turn.taken (turn : Turn isPass running world desk act after later)
    (kept : desk.Kept running) (pass ticket : Nat) (begun : began pass (some ticket) ∈ later.log) :
    ticket ∈ later.attended ∨ ticket ∈ later.answers := by
  have old : began pass (some ticket) ∈ desk.log → ticket ∈ desk.attended ∨ ticket ∈ desk.answers :=
    kept.taken pass ticket
  cases turn with
  | receive accepting => exact old ((List.mem_cons.mp begun).resolve_left nofun)
  | refuse halted =>
    have earlier : began pass (some ticket) ∈ desk.log := by simpa [Desk.refuse] using begun
    exact (old earlier).imp_right (List.mem_cons_of_mem _)
  | order accepting => exact old begun
  | tick accepting idle own =>
    rw [attended_of_work idle] at old
    exact Or.inr ((old ((List.mem_cons.mp begun).resolve_left nofun)).resolve_left nofun)
  | take accepting idle next own =>
    rw [attended_of_work idle] at old
    rcases List.mem_cons.mp begun with same | earlier
    · cases same
      exact Or.inl List.mem_cons_self
    · exact Or.inr ((old earlier).resolve_left nofun)
  | @stop queue accepting idle next =>
    rw [attended_of_work idle] at old
    have earlier : began pass (some ticket) ∈ desk.log := by simpa [close] using begun
    rw [answers_close]
    exact Or.inr (List.mem_append_right _ ((old earlier).resolve_left nofun))
  | proceed underWay left =>
    rw [attended_of_work underWay] at old
    exact old begun
  | @finish work result underWay left =>
    rw [attended_of_work underWay] at old
    have earlier : began pass (some ticket) ∈ desk.log := by simpa [conclude] using begun
    rw [answers_conclude, List.mem_append]
    exact Or.inr (old earlier)

/-- A pass that began is under way or was finished since. -/
theorem Turn.concluded (turn : Turn isPass running world desk act after later)
    (kept : desk.Kept running) (pass : Nat) (ticket : Option Nat)
    (begun : began pass ticket ∈ later.log) : pass ∈ later.underWay ∨
      ∃ result, [finished pass result, began pass ticket].Sublist later.log := by
  have ended : ∀ events,
      (∃ result, [finished pass result, began pass ticket].Sublist desk.log) →
      ∃ result, [finished pass result, began pass ticket].Sublist (events ++ desk.log) :=
    fun events ⟨result, inOrder⟩ => ⟨result, List.sublist_append_of_sublist_right inOrder⟩
  have old := kept.concluded pass ticket
  have begins : ∀ queue own rest, desk.work = none →
      began pass ticket ∈ (desk.begin queue own rest).log →
      pass ∈ (desk.begin queue own rest).underWay ∨
        ∃ result, [finished pass result, began pass ticket].Sublist
          (desk.begin queue own rest).log := by
    intro queue own rest idle begun
    rw [underWay_of_work idle] at old
    rcases List.mem_cons.mp begun with same | earlier
    · cases same
      exact Or.inl List.mem_cons_self
    · exact Or.inr (ended [_] ((old earlier).resolve_left nofun))
  cases turn with
  | receive accepting =>
    exact (old ((List.mem_cons.mp begun).resolve_left nofun)).imp_right (ended [_])
  | refuse halted =>
    have earlier : began pass ticket ∈ desk.log := by simpa [Desk.refuse] using begun
    exact (old earlier).imp_right (ended [_, _])
  | order accepting => exact old begun
  | tick accepting idle own => exact begins _ _ _ idle begun
  | take accepting idle next own => exact begins _ _ _ idle begun
  | @stop queue accepting idle next =>
    rw [underWay_of_work idle] at old
    have earlier : began pass ticket ∈ desk.log := by simpa [close] using begun
    rw [log_close]
    exact Or.inr (ended _ ((old earlier).resolve_left nofun))
  | proceed underWay left =>
    rw [underWay_of_work underWay] at old
    exact old begun
  | @finish work result underWay left =>
    rw [underWay_of_work underWay] at old
    have earlier : began pass ticket ∈ desk.log := by simpa [conclude] using begun
    rw [log_conclude]
    rcases old earlier with same | endedBefore
    · obtain rfl : pass = work.pass := List.mem_singleton.mp same
      refine Or.inr ⟨result, ?_⟩
      rw [List.append_assoc]
      exact List.sublist_append_of_sublist_right
        ((List.singleton_sublist.mpr earlier).cons_cons _)
    · exact Or.inr (ended _ endedBefore)

/-- At the desk of a loop that starts, no pass has ended. -/
theorem finished_not_mem_opened (pass : Nat) (result : Except PipelineError ρ) :
    finished pass result ∉ (opened running : Desk γ ρ).log := by
  cases running <;> simp [opened]

/-- A desk is kept when its loop starts. -/
theorem opened_kept (running : Bool) : (opened running : Desk γ ρ).Kept running where
  requestLedger := by cases running <;> exact ⟨.nil, .refl _, nofun⟩
  passLedger := by cases running <;> exact ⟨.nil, .refl _, nofun⟩
  apart := by cases running <;> simp [opened]
  settled := by cases running <;> simp [opened]
  stopped_iff := by cases running <;> simp [opened]
  final := by cases running <;> simp [opened]
  late := by cases running <;> simp [opened]
  halted _ := ⟨rfl, rfl⟩
  attending := nofun
  taken := by cases running <;> simp [opened]
  concluded := by cases running <;> simp [opened]

/-- Every turn keeps a desk. -/
theorem Turn.kept (turn : Turn isPass running world desk act after later)
    (kept : desk.Kept running) : later.Kept (act.leavesRunning running) where
  requestLedger := turn.requestLedger kept.requestLedger
  passLedger := turn.passLedger kept.passLedger
  apart := turn.apart kept
  settled := turn.settled kept
  stopped_iff := turn.stopped_iff kept
  final := turn.final kept
  late := turn.late kept
  halted := turn.halted kept
  attending := turn.attending kept
  taken := turn.taken kept
  concluded := turn.concluded kept

end Desk

end Syndication
