import Syndication.Scheduler

/-!
# The desk of a loop

A loop works on one pass at a time. Commands wait for it in a queue, in the order in which they were
sent; that a channel holds only so many of them, and a sender waits for a place, makes no difference
to the order. When the loop has no pass under way it takes the next command or a tick of its timer,
whichever comes first. Taking the order to stop ends the loop, and with it every request that is
still in the queue is refused; so is every request that comes later, at once. To give the scheduler
up is such an order too, behind all other commands. Other parties act between any two operations of
a pass, and a pass ends with whatever result it comes to.

The log of a desk has all that happened at it, the latest event first. `Desk.Turn` is what can
happen next, whoever's turn it is.
-/

namespace Syndication

/-- A command on its way to a loop. A request is known by its ticket. -/
inductive Command where
  | run (ticket : Nat)
  | stop
  deriving DecidableEq

/-- The request that a command is. -/
def Command.ticket? : Command → Option Nat
  | run ticket => some ticket
  | stop => none

/-- What happens at a desk. A pass is begun for a request or, without a ticket, for the timer. -/
inductive DeskEvent (ρ : Type) where
  | requested (ticket : Nat)
  | began (pass : Nat) (ticket : Option Nat)
  | finished (pass : Nat) (result : Except PipelineError ρ)
  | answered (ticket : Nat) (result : Except PipelineError ρ)
  | stopped

namespace DeskEvent

variable {ρ : Type}

/-- The ticket of a request that comes in. -/
def request? : DeskEvent ρ → Option Nat
  | requested ticket => some ticket
  | _ => none

/-- The ticket of a request that is answered. -/
def answer? : DeskEvent ρ → Option Nat
  | answered ticket _ => some ticket
  | _ => none

/-- The pass that begins. -/
def begin? : DeskEvent ρ → Option Nat
  | began pass _ => some pass
  | _ => none

/-- The pass that is over. -/
def end? : DeskEvent ρ → Option Nat
  | finished pass _ => some pass
  | _ => none

end DeskEvent

/-- A pass under way: what it is known by, the request it is for, and what is left of it. -/
structure Work (γ ρ : Type) where
  pass : Nat
  ticket : Option Nat
  rest : Attempt (World γ) PipelineError ρ

/-- The commands that wait for a loop, the pass it works on, and what happened so far. -/
structure Desk (γ ρ : Type) where
  queue : List Command
  work : Option (Work γ ρ)
  log : List (DeskEvent ρ)

namespace Desk

variable {γ ρ : Type}

/-- The desk of a loop that starts, or that ends before it takes anything. -/
def opened (running : Bool) : Desk γ ρ := ⟨[], none, if running then [] else [.stopped]⟩

/-- A request joins the queue. Its ticket is the number of events before it. -/
def receive (desk : Desk γ ρ) : Desk γ ρ :=
  { desk with
    queue := desk.queue ++ [.run desk.log.length]
    log := .requested desk.log.length :: desk.log }

/-- A request comes after the loop has stopped. -/
def refuse (desk : Desk γ ρ) : Desk γ ρ :=
  { desk with log :=
      .answered desk.log.length (.error .stopped) :: .requested desk.log.length :: desk.log }

/-- An order to stop joins the queue. -/
def order (desk : Desk γ ρ) : Desk γ ρ := { desk with queue := desk.queue ++ [.stop] }

/-- A pass begins. It is known by the number of events before it. -/
def begin (desk : Desk γ ρ) (queue : List Command) (ticket : Option Nat)
    (pass : Attempt (World γ) PipelineError ρ) : Desk γ ρ :=
  ⟨queue, some ⟨desk.log.length, ticket, pass⟩, .began desk.log.length ticket :: desk.log⟩

/-- The loop stops, and all requests in the queue are refused. -/
def close (desk : Desk γ ρ) (queue : List Command) : Desk γ ρ :=
  ⟨[], none, (queue.filterMap Command.ticket?).map (.answered · (.error .stopped)) ++
    .stopped :: desk.log⟩

/-- A pass goes on with what is left of it. -/
def proceed (desk : Desk γ ρ) (work : Work γ ρ)
    (rest : Attempt (World γ) PipelineError ρ) : Desk γ ρ :=
  { desk with work := some { work with rest } }

/-- A pass is over. The request that it is for is answered with its result. -/
def conclude (desk : Desk γ ρ) (work : Work γ ρ) (result : Except PipelineError ρ) :
    Desk γ ρ :=
  { desk with
    work := none
    log := work.ticket.toList.map (.answered · result) ++
      .finished work.pass result :: desk.log }

/-- The requests in the queue. -/
def waiting (desk : Desk γ ρ) : List Nat := desk.queue.filterMap Command.ticket?

/-- The request that the pass under way is for. -/
def attended (desk : Desk γ ρ) : List Nat := (desk.work.bind Work.ticket).toList

/-- The pass under way. -/
def underWay (desk : Desk γ ρ) : List Nat := (desk.work.map Work.pass).toList

/-- The requests that came in. -/
def requests (desk : Desk γ ρ) : List Nat := desk.log.filterMap DeskEvent.request?

/-- The requests that were answered. -/
def answers (desk : Desk γ ρ) : List Nat := desk.log.filterMap DeskEvent.answer?

/-- The passes that began. -/
def begun (desk : Desk γ ρ) : List Nat := desk.log.filterMap DeskEvent.begin?

/-- The passes that are over. -/
def ended (desk : Desk γ ρ) : List Nat := desk.log.filterMap DeskEvent.end?

end Desk

/-- What a party does at a desk. -/
inductive Act (ρ : Type) where
  /-- A request or an order to stop comes in. -/
  | arrive
  /-- The loop takes a tick of its timer. -/
  | tick
  /-- The loop takes a request. -/
  | take
  /-- The loop takes an order to stop. -/
  | stop
  /-- The pass under way performs its next operation. -/
  | proceed
  /-- The pass under way is over. -/
  | finish (result : Except PipelineError ρ)

namespace Act

variable {ρ : Type}

/-- True when the loop takes a command. -/
def takes : Act ρ → Bool
  | take | stop => true
  | _ => false

/-- True when the pass under way goes on or is over. -/
def works : Act ρ → Bool
  | proceed | finish _ => true
  | _ => false

end Act

/-- What can happen next at the desk of a loop, with what it does to the world. A stopped loop takes
no notice of orders to stop. -/
inductive Desk.Turn {γ ρ : Type} (isPass : Attempt (World γ) PipelineError ρ → Prop)
    (running : Bool) (world : World γ) (desk : Desk γ ρ) :
    Act ρ → World γ → Desk γ ρ → Prop
  | receive (accepting : running = true) : Turn isPass running world desk .arrive world desk.receive
  | refuse (halted : running = false) : Turn isPass running world desk .arrive world desk.refuse
  | order (accepting : running = true) : Turn isPass running world desk .arrive world desk.order
  | tick {pass : Attempt (World γ) PipelineError ρ} (accepting : running = true)
      (idle : desk.work = none) (own : isPass pass) :
      Turn isPass running world desk .tick world (desk.begin desk.queue none pass)
  | take {ticket : Nat} {queue : List Command} {pass : Attempt (World γ) PipelineError ρ}
      (accepting : running = true) (idle : desk.work = none)
      (next : desk.queue = .run ticket :: queue) (own : isPass pass) :
      Turn isPass running world desk .take world (desk.begin queue (some ticket) pass)
  | stop {queue : List Command} (accepting : running = true) (idle : desk.work = none)
      (next : desk.queue = .stop :: queue) :
      Turn isPass running world desk .stop world (desk.close queue)
  | proceed {work : Work γ ρ} {effect : World γ → World γ}
      {next : World γ → Attempt (World γ) PipelineError ρ}
      (underWay : desk.work = some work) (left : work.rest = .act effect next) :
      Turn isPass running world desk .proceed (effect world) (desk.proceed work (next world))
  | finish {work : Work γ ρ} {result : Except PipelineError ρ}
      (underWay : desk.work = some work) (left : work.rest = .done result) :
      Turn isPass running world desk (.finish result) world (desk.conclude work result)

/-- True when a loop that was running still is after an act. -/
def Act.leavesRunning {ρ : Type} (running : Bool) : Act ρ → Bool
  | stop => false
  | _ => running

end Syndication
