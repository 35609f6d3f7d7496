import BrokerSession.Schedule
import BrokerSession.Session.Journal
import BrokerSession.WorkQueue

/-!
# A queue of chores under a clock

A chore takes some time and then puts its label on a list, or crashes. Chores show a work queue by itself, without
a session or an engine.

## Main definitions

* `Chore` - a job, or a mark between jobs
* `Chores` - a queue of chores with what they have done
* `Chores.enqueue`, `Chores.awaitIdle`, `Chores.close` - what the owner of the queue does
-/

namespace BrokerSession

/-- A job, or a mark between jobs. -/
inductive Chore where
  | work (label : String) (millis : Nat) (crashes : Bool)
  /-- Tells that everything before it is done. -/
  | mark (ticket : Nat)
  deriving DecidableEq, Repr

/-- A queue of chores with what they have done. -/
structure Chores where
  queue : WorkQueue Chore
  /-- When the job at work is done, in milliseconds. -/
  due : Nat
  /-- The labels of the jobs that are done. -/
  done : List String
  /-- The marks that the worker has come to. -/
  reached : List Nat
  nextMark : Nat
  /-- Whether somebody still waits for the worker to end. -/
  watched : Bool
  journal : List Entry
  clock : Nat

namespace Chores

/-- A queue that was never used. -/
def fresh : Chores := ⟨.fresh, 0, [], [], 0, true, [], 0⟩

/-- Adds a warning to the journal. -/
def warn (s : Chores) (w : Warning) : Chores := { s with journal := s.journal ++ [.warning w none] }

/-- Hands in a chore. -/
def enqueue (s : Chores) (c : Chore) : Except SessionError Chores :=
  match s.queue.enqueue? c with
  | some queue => .ok { s with queue }
  | none => .error .queueClosed

/-- The effect of the job at work when its time has come. -/
def finishChore (s : Chores) : Chore → Chores
  | .work _ _ true => { s with queue := s.queue.crash }
  | .work label _ false => { s with queue := s.queue.finish, done := s.done ++ [label] }
  | .mark t => { s with queue := s.queue.finish, reached := s.reached ++ [t] }

/-- How long a chore takes. -/
def millis : Chore → Nat
  | .work _ n _ => n
  | .mark _ => 0

/-- The next step of the worker. -/
def workerStep? (s : Chores) : Option Chores :=
  match s.queue.active with
  | some c => if s.clock < s.due then none else some (s.finishChore c)
  | none =>
    match s.queue.start? with
    | some (c, queue) => some { s with queue, due := s.clock + millis c }
    | none => s.queue.retire?.map fun queue => { s with queue }

/-- The queue under its clock. -/
def process : Process Chores where
  step := workerStep?
  wake? s := if s.queue.active.isSome && s.clock < s.due then some s.due else none
  now := clock
  tick time s := { s with clock := time }
  bound s := 2 * s.queue.backlog.length + 4

/-- Waits until everything handed in so far is done. -/
def awaitIdle (s : Chores) : Except SessionError Unit × Chores :=
  let t := s.nextMark
  match { s with nextMark := t + 1 }.enqueue (.mark t) with
  | .error e => (.error e, s)
  | .ok s =>
    let isSettled (s : Chores) : Bool := s.reached.contains t || s.queue.worker != .alive
    let s := (process.waitFor isSettled none s).state
    if s.reached.contains t then (.ok (), s) else (.error .queueClosed, s)

/-- How long the owner waits for the worker to end, in milliseconds. -/
def drainLimit : Nat := 10000

/-- Closes the queue, and waits for the worker to end, the first time. -/
def close (s : Chores) : Chores :=
  let s := { s with queue := s.queue.close }
  if !s.watched then s
  else
    let ended (s : Chores) : Bool := s.queue.worker != .alive
    match process.waitFor ended (some (s.clock + drainLimit)) { s with watched := false } with
    | .met s => if s.queue.worker = .crashed then s.warn .workerFailed else s
    | .expired s => s.warn .drainTimeout
    | .stuck s => s

end Chores

end BrokerSession
