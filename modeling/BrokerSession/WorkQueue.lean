/-!
# A queue with one worker

Jobs are accepted in the order in which they come, and a single worker takes them one after another, each only
when the one before it is finished. A queue that is closed accepts nothing more, and its worker ends once
nothing is left. A job that crashes takes the worker with it; what still waited is never started.

## Main definitions

* `WorkQueue` - the jobs that wait, the one at work, and what is left of the worker
* `WorkQueue.enqueue?`, `WorkQueue.close` - what the owner of the queue does
* `WorkQueue.start?`, `WorkQueue.finish`, `WorkQueue.crash`, `WorkQueue.retire?` - what the worker does
-/

namespace BrokerSession

/-- What is left of a worker. -/
inductive Worker where
  | alive
  /-- It found the queue closed and empty. -/
  | ended
  /-- A job took it along. -/
  | crashed
  deriving DecidableEq, Repr, Inhabited

/-- Jobs that wait, the one at work, and what is left of the worker. -/
structure WorkQueue (α : Type) where
  /-- Accepted and not started, the earliest first. -/
  backlog : List α
  /-- The job at work. -/
  active : Option α
  /-- Whether the owner still hands in jobs. -/
  accepting : Bool
  worker : Worker
  deriving Repr

namespace WorkQueue

variable {α : Type}

/-- A queue that was never used. -/
def fresh : WorkQueue α := ⟨[], none, true, .alive⟩

instance : Inhabited (WorkQueue α) := ⟨fresh⟩

/-- Whether the queue refuses jobs: its owner closed it, or its worker is gone. -/
def isClosed (q : WorkQueue α) : Bool := !q.accepting || q.worker != .alive

/-- Hands in a job; `none` when the queue refuses it. -/
def enqueue? (q : WorkQueue α) (job : α) : Option (WorkQueue α) :=
  if q.isClosed then none else some { q with backlog := q.backlog ++ [job] }

/-- Hands in nothing more. -/
def close (q : WorkQueue α) : WorkQueue α := { q with accepting := false }

/-- The worker takes the next job, unless it is busy or there is none. -/
def start? (q : WorkQueue α) : Option (α × WorkQueue α) :=
  match q.worker, q.active, q.backlog with
  | .alive, none, job :: rest => some (job, { q with backlog := rest, active := some job })
  | _, _, _ => none

/-- The worker is done with its job. -/
def finish (q : WorkQueue α) : WorkQueue α := { q with active := none }

/-- The job at work crashes. -/
def crash (q : WorkQueue α) : WorkQueue α :=
  { q with backlog := [], active := none, worker := .crashed }

/-- The worker ends, once nothing is left and nothing more will come. -/
def retire? (q : WorkQueue α) : Option (WorkQueue α) :=
  match q.worker, q.active, q.backlog with
  | .alive, none, [] => if q.accepting then none else some { q with worker := .ended }
  | _, _, _ => none

/-- Whether nothing waits and nothing is at work. -/
def isIdle (q : WorkQueue α) : Bool := q.backlog.isEmpty && q.active.isNone

/-- Whether a queue refuses jobs does not depend on the jobs it has. -/
@[simp] theorem isClosed_mk (q : WorkQueue α) (backlog : List α) (active : Option α) :
    isClosed ⟨backlog, active, q.accepting, q.worker⟩ = q.isClosed :=
  rfl

@[simp] theorem isIdle_iff (q : WorkQueue α) :
    q.isIdle = true ↔ q.backlog = [] ∧ q.active = none := by
  simp [isIdle]

/-- A job is taken by a worker that is there and has none. -/
theorem start?_eq_some_iff {q q' : WorkQueue α} {job : α} :
    q.start? = some (job, q') ↔
      q.worker = .alive ∧ q.active = none ∧
        ∃ rest, q.backlog = job :: rest ∧ q' = { q with backlog := rest, active := some job } := by
  constructor
  · intro taken
    unfold start? at taken
    split at taken
    · rename_i first rest alive free waits
      cases taken
      exact ⟨alive, free, rest, waits, rfl⟩
    · cases taken
  · rintro ⟨alive, free, rest, waits, rfl⟩
    simp only [start?, alive, free, waits]

/-- A worker ends when it has no job, finds none, and none will come. -/
theorem retire?_eq_some_iff {q q' : WorkQueue α} :
    q.retire? = some q' ↔
      q.worker = .alive ∧ q.active = none ∧ q.backlog = [] ∧ q.accepting = false ∧
        q' = { q with worker := .ended } := by
  constructor
  · intro retired
    unfold retire? at retired
    split at retired
    · rename_i alive free empty
      split at retired
      · cases retired
      · rename_i closed
        cases retired
        exact ⟨alive, free, empty, by simpa using closed, rfl⟩
    · cases retired
  · rintro ⟨alive, free, empty, closed, rfl⟩
    simp [retire?, alive, free, empty, closed]

end WorkQueue

end BrokerSession
