import BrokerSession.Chores
import BrokerSession.Proofs.Histories
import Mathlib.Data.List.Induction

/-!
# Chores are done in the order in which they were handed in

A queue of chores has many callers and one worker. Callers hand in chores, wait until everything is done, and close the
queue; the worker starts a chore, is done with it, or goes down with it; and all this may fall in any order. What has
happened says what there is: the chores that were accepted are those that were finished, then the one at work, then the
ones that wait.

## Main definitions

* `Chores.Move`, `Chores.Deed` - what can happen to a queue of chores, and what came of it
* `Chores.play` - the deeds of a run, with the queue at its end
* `Chores.Step` - everything that one move may do
* `Chores.Accounted` - a queue is what its history says

## Main results

* `Chores.step_of_act?` - a move does one of these things
* `Chores.Accounted.step` - and the queue goes on being what its history says
* `Chores.due_of_step` - what has to have happened before something happens
-/

namespace BrokerSession

namespace Chore

/-- Whether a chore takes the worker with it. -/
def crashes : Chore → Bool
  | work _ _ crashes => crashes
  | mark _ => false

/-- The number of a mark. -/
def mark? : Chore → Option Nat
  | work .. => none
  | mark t => some t

theorem mark?_eq_some_iff {c : Chore} {t : Nat} : c.mark? = some t ↔ c = .mark t := by
  cases c <;> simp [mark?]

end Chore

namespace Chores

/-! ## Runs -/

/-- What can happen to a queue of chores. -/
inductive Move where
  | enqueue (label : String) (millis : Nat) (crashes : Bool)
  /-- Somebody begins to wait until everything handed in so far is done. -/
  | awaitIdle
  | close
  /-- The worker takes a step, if there is one to take. -/
  | work
  | pass (millis : Nat)
  deriving DecidableEq

/-- What came of a move. -/
inductive Deed where
  | accepted (c : Chore)
  | refused (c : Chore)
  | closed
  | started (c : Chore)
  | finished (c : Chore)
  /-- A chore has taken the worker with it. -/
  | crashed (c : Chore)
  /-- The worker has ended by itself. -/
  | retired
  | passed
  deriving DecidableEq

/-- What the next step of the worker is about. -/
def task (s : Chores) : Deed :=
  match s.queue.active, s.queue.backlog with
  | some c, _ => if c.crashes then .crashed c else .finished c
  | none, c :: _ => .started c
  | none, [] => .retired

/-- What comes of handing in a chore. -/
def handIn (s : Chores) (c : Chore) (t : Chores) : Deed × Chores :=
  match t.enqueue c with
  | .ok u => (.accepted c, u)
  | .error _ => (.refused c, s)

/-- What comes of a move, with the queue after it; `none` for a step of a worker that has none to take. -/
def act? (s : Chores) : Move → Option (Deed × Chores)
  | .enqueue label millis crashes => some (s.handIn (.work label millis crashes) s)
  | .awaitIdle => some (s.handIn (.mark s.nextMark) { s with nextMark := s.nextMark + 1 })
  | .close => some (.closed, { s with queue := s.queue.close, watched := false })
  | .work => s.workerStep?.map fun t => (s.task, t)
  | .pass millis => some (.passed, { s with clock := s.clock + millis })

/-- The deeds so far and the queue, after one more move; a move that cannot be made is passed over. -/
def proceed (p : List Deed × Chores) (m : Move) : List Deed × Chores :=
  match p.2.act? m with
  | some (d, s) => (p.1 ++ [d], s)
  | none => p

/-- The deeds of a run, the earliest first, with the queue at its end. -/
def play (ms : List Move) : List Deed × Chores := ms.foldl proceed ([], fresh)

theorem play_concat (ms : List Move) (m : Move) : play (ms ++ [m]) = proceed (play ms) m := by
  simp [play]

/-! ## What a history says -/

namespace Deed

def accepted? : Deed → Option Chore
  | accepted c => some c
  | _ => none

def started? : Deed → Option Chore
  | started c => some c
  | _ => none

def finished? : Deed → Option Chore
  | finished c => some c
  | _ => none

end Deed

/-- The chores that were accepted, the earliest first. -/
def accepted (h : List Deed) : List Chore := h.filterMap Deed.accepted?

/-- The chores that were started. -/
def started (h : List Deed) : List Chore := h.filterMap Deed.started?

/-- The chores that are done. -/
def finished (h : List Deed) : List Chore := h.filterMap Deed.finished?

/-- Some chore has taken the worker with it. -/
def Crashed (h : List Deed) : Prop := ∃ c, .crashed c ∈ h

/-- Nothing more is accepted. -/
def Shut (h : List Deed) : Prop := .closed ∈ h ∨ Crashed h

variable {h : List Deed} {s t : Chores} {d : Deed} {m : Move} {c : Chore}

@[simp] theorem accepted_concat : accepted (h ++ [d]) = accepted h ++ d.accepted?.toList := by
  cases taken : d.accepted? <;> simp [accepted, taken]

@[simp] theorem started_concat : started (h ++ [d]) = started h ++ d.started?.toList := by
  cases taken : d.started? <;> simp [started, taken]

@[simp] theorem finished_concat : finished (h ++ [d]) = finished h ++ d.finished?.toList := by
  cases taken : d.finished? <;> simp [finished, taken]

theorem crashed_concat : Crashed (h ++ [d]) ↔ Crashed h ∨ ∃ c, d = .crashed c := by
  simp [Crashed, exists_or, eq_comm]

/-! ## One move -/

/-- Everything that one move may do. -/
inductive Step (s : Chores) : Deed → Chores → Prop
  /-- A mark has the next number. -/
  | accepted {c : Chore} {next : Nat} (open_ : s.queue.isClosed = false)
    (numbered : List.range next = List.range s.nextMark ++ c.mark?.toList) :
    Step s (.accepted c) { s with queue := { s.queue with backlog := s.queue.backlog ++ [c] }, nextMark := next }
  | refused (c : Chore) (shut : s.queue.isClosed = true) : Step s (.refused c) s
  | closed : Step s .closed { s with queue := s.queue.close, watched := false }
  | started {c : Chore} {rest : List Chore} (alive : s.queue.worker = .alive) (free : s.queue.active = none)
    (waits : s.queue.backlog = c :: rest) :
    Step s (.started c)
      { s with queue := { s.queue with backlog := rest, active := some c }, due := s.clock + millis c }
  | finished {c : Chore} {done : List String} (busy : s.queue.active = some c) (due : s.due ≤ s.clock)
    (whole : c.crashes = false) :
    Step s (.finished c) { s with queue := s.queue.finish, done, reached := s.reached ++ c.mark?.toList }
  | crashed {c : Chore} (busy : s.queue.active = some c) (due : s.due ≤ s.clock) (crashes : c.crashes = true) :
    Step s (.crashed c) { s with queue := s.queue.crash }
  | retired (alive : s.queue.worker = .alive) (free : s.queue.active = none) (empty : s.queue.backlog = [])
    (closed : s.queue.accepting = false) : Step s .retired { s with queue := { s.queue with worker := .ended } }
  | passed (millis : Nat) : Step s .passed { s with clock := s.clock + millis }

theorem step_of_workerStep? (step : s.workerStep? = some t) : s.Step s.task t := by
  unfold workerStep? at step
  cases busy : s.queue.active with
  | some c =>
    simp only [busy, Option.ite_none_left_eq_some, Nat.not_lt, Option.some.injEq] at step
    obtain ⟨due, rfl⟩ := step
    cases c with
    | work label millis crashes =>
      cases crashes with
      | true => simpa [task, busy, Chore.crashes, finishChore] using Step.crashed busy due rfl
      | false =>
        have done := @Step.finished s _ (s.done ++ [label]) busy due rfl
        simpa [task, busy, Chore.crashes, Chore.mark?, finishChore] using done
    | mark number =>
      have done := @Step.finished s _ s.done busy due rfl
      simpa [task, busy, Chore.crashes, Chore.mark?, finishChore] using done
  | none =>
    simp only [busy] at step
    cases started : s.queue.start? with
    | some taken =>
      obtain ⟨c, queue⟩ := taken
      obtain ⟨alive, -, rest, waits, rfl⟩ := WorkQueue.start?_eq_some_iff.mp started
      simp only [started, Option.some.injEq] at step
      subst step
      simpa [task, busy, waits] using Step.started alive busy waits
    | none =>
      simp only [started] at step
      obtain ⟨queue, retired, rfl⟩ := Option.map_eq_some_iff.mp step
      obtain ⟨alive, -, empty, closed, rfl⟩ := WorkQueue.retire?_eq_some_iff.mp retired
      simpa [task, busy, empty] using Step.retired alive busy empty closed

theorem step_of_handIn {next : Nat} (numbered : List.range next = List.range s.nextMark ++ c.mark?.toList) :
    s.Step (s.handIn c { s with nextMark := next }).1 (s.handIn c { s with nextMark := next }).2 := by
  by_cases shut : s.queue.isClosed = true
  · simpa [handIn, enqueue, WorkQueue.enqueue?, shut] using Step.refused c shut
  · have open_ : s.queue.isClosed = false := by simpa using shut
    simpa [handIn, enqueue, WorkQueue.enqueue?, open_] using Step.accepted open_ numbered

/-- A move does one of these things. -/
theorem step_of_act? (acts : s.act? m = some (d, t)) : s.Step d t := by
  cases m with
  | enqueue label millis crashes =>
    obtain ⟨rfl, rfl⟩ := Prod.mk.inj (Option.some.inj acts)
    exact step_of_handIn (c := .work label millis crashes) (by simp [Chore.mark?])
  | awaitIdle =>
    obtain ⟨rfl, rfl⟩ := Prod.mk.inj (Option.some.inj acts)
    exact step_of_handIn (by simp [Chore.mark?, List.range_succ])
  | close =>
    cases acts
    exact .closed
  | work =>
    obtain ⟨u, step, eq⟩ := Option.map_eq_some_iff.mp acts
    cases eq
    exact step_of_workerStep? step
  | pass millis =>
    cases acts
    exact .passed millis

/-! ## The queue is what its history says -/

/-- Whether a queue is what its history says. -/
structure Accounted (h : List Deed) (s : Chores) : Prop where
  accepted : s.queue.worker ≠ .crashed → accepted h = started h ++ s.queue.backlog
  started : s.queue.worker ≠ .crashed → started h = finished h ++ s.queue.active.toList
  /-- The chore that has taken the worker with it was started and not finished. -/
  wrecked : s.queue.worker = .crashed → ∃ c rest, Chores.started h = finished h ++ [c] ∧
    Chores.accepted h = Chores.started h ++ rest
  crashed : s.queue.worker = .crashed ↔ Crashed h
  closed : s.queue.accepting = false ↔ .closed ∈ h
  /-- The first one to close the queue waits for the worker. -/
  watched : s.watched = false ↔ .closed ∈ h
  /-- Only a queue that was closed lets its worker go. -/
  ended : s.queue.worker = .ended → s.queue.accepting = false
  idle : s.queue.worker ≠ .alive → s.queue.backlog = [] ∧ s.queue.active = none
  numbered : (Chores.accepted h).filterMap Chore.mark? = List.range s.nextMark
  reached : s.reached = (finished h).filterMap Chore.mark?
  whole : ∀ c ∈ finished h, c.crashes = false

theorem accounted_fresh : Accounted [] fresh where
  accepted _ := rfl
  started _ := rfl
  wrecked gone := by cases gone
  crashed := by simp [fresh, WorkQueue.fresh, Crashed]
  closed := by simp [fresh, WorkQueue.fresh]
  watched := by simp [fresh]
  ended gone := by cases gone
  idle _ := ⟨rfl, rfl⟩
  numbered := rfl
  reached := rfl
  whole := by simp [finished]

namespace Accounted

/-- A queue refuses chores when it was closed or has lost its worker, and at no other time. -/
theorem isClosed_iff (a : Accounted h s) : s.queue.isClosed = true ↔ Shut h := by
  have gone : s.queue.worker ≠ .alive ↔ s.queue.worker = .crashed ∨ s.queue.worker = .ended := by
    cases s.queue.worker <;> simp
  rw [Shut, ← a.closed, ← a.crashed]
  simp only [WorkQueue.isClosed, Bool.or_eq_true, Bool.not_eq_true', bne_iff_ne, ne_eq]
  constructor
  · rintro (closed | lost)
    · exact .inl closed
    · exact (gone.mp lost).elim .inr (.inl ∘ a.ended)
  · rintro (closed | lost)
    · exact .inl closed
    · exact .inr (gone.mpr (.inl lost))

theorem alive_of_open (open_ : s.queue.isClosed = false) : s.queue.accepting = true ∧ s.queue.worker = .alive := by
  simpa [WorkQueue.isClosed] using open_

theorem alive_of_busy (a : Accounted h s) (busy : s.queue.active = some c) : s.queue.worker = .alive := by
  by_contra gone
  rw [(a.idle gone).2] at busy
  cases busy

/-- A worker that is there, or has ended by itself, has left nothing unfinished but what it works on and what waits. -/
theorem accepted_eq (a : Accounted h s) (sound : s.queue.worker ≠ .crashed) :
    Chores.accepted h = finished h ++ (s.queue.active.toList ++ s.queue.backlog) := by
  rw [a.accepted sound, a.started sound, List.append_assoc]

/-- A worker that has ended by itself has finished everything. -/
theorem finished_eq_of_ended (a : Accounted h s) (ended : s.queue.worker = .ended) :
    finished h = Chores.accepted h := by
  obtain ⟨empty, free⟩ := a.idle (by simp [ended])
  simpa [empty, free] using (a.accepted_eq (by simp [ended])).symm

/-- What was started is what was accepted, up to some place. -/
theorem started_prefix (a : Accounted h s) : Chores.started h <+: Chores.accepted h := by
  by_cases lost : s.queue.worker = .crashed
  · obtain ⟨c, rest, -, accepted⟩ := a.wrecked lost
    exact ⟨rest, accepted.symm⟩
  · exact ⟨s.queue.backlog, (a.accepted lost).symm⟩

/-- And the same holds of what was finished. -/
theorem finished_prefix (a : Accounted h s) : finished h <+: Chores.accepted h := by
  refine List.IsPrefix.trans ?_ a.started_prefix
  by_cases lost : s.queue.worker = .crashed
  · obtain ⟨c, -, started, -⟩ := a.wrecked lost
    exact ⟨[c], started.symm⟩
  · exact ⟨s.queue.active.toList, (a.started lost).symm⟩

/-- A queue that is left alone stays what its history says. -/
theorem bystander (a : Accounted h s) (queue : t.queue = s.queue) (reached : t.reached = s.reached)
    (next : t.nextMark = s.nextMark) (watched : t.watched = s.watched) (accepts : d.accepted? = none)
    (starts : d.started? = none) (finishes : d.finished? = none) (crashes : ∀ c, d ≠ .crashed c)
    (closes : d ≠ .closed) :
    Accounted (h ++ [d]) t where
  accepted := by simpa [queue, accepts, starts] using a.accepted
  started := by simpa [queue, starts, finishes] using a.started
  wrecked := by simpa [queue, accepts, starts, finishes] using a.wrecked
  crashed := by simp [queue, crashed_concat, a.crashed, crashes]
  closed := by simp [queue, a.closed, closes.symm]
  watched := by simp [watched, a.watched, closes.symm]
  ended := by simpa [queue] using a.ended
  idle := by simpa [queue] using a.idle
  numbered := by simpa [next, accepts] using a.numbered
  reached := by simpa [reached, finishes] using a.reached
  whole := by simpa [finishes] using a.whole

/-- Whatever happens next, a queue goes on being what its history says. -/
theorem step (a : Accounted h s) (step : s.Step d t) : Accounted (h ++ [d]) t := by
  -- One case for each deed. Only a crash loses something: the chore at work and what waits behind it.
  cases step with
  | @accepted c next open_ numbered =>
    obtain ⟨accepting, alive⟩ := alive_of_open open_
    exact {
      accepted := fun sound => by simp [Deed.accepted?, Deed.started?, a.accepted sound]
      started := fun sound => by simp [Deed.started?, Deed.finished?, a.started sound]
      wrecked := fun lost => absurd (alive.symm.trans lost) nofun
      crashed := by simp [crashed_concat, a.crashed]
      closed := by simp [a.closed]
      watched := by simp [a.watched]
      ended := a.ended
      idle := fun gone => absurd alive gone
      numbered := by
        cases marked : c.mark? <;> simpa [Deed.accepted?, a.numbered, marked] using numbered.symm
      reached := by simp [Deed.finished?, a.reached]
      whole := by simpa [Deed.finished?] using a.whole }
  | refused c shut => exact a.bystander rfl rfl rfl rfl rfl rfl rfl nofun nofun
  | passed millis => exact a.bystander rfl rfl rfl rfl rfl rfl rfl nofun nofun
  | closed =>
    exact {
      accepted := by simpa [Deed.accepted?, Deed.started?, WorkQueue.close] using a.accepted
      started := by simpa [Deed.started?, Deed.finished?, WorkQueue.close] using a.started
      wrecked := by simpa [Deed.accepted?, Deed.started?, Deed.finished?, WorkQueue.close] using a.wrecked
      crashed := by simp [crashed_concat, WorkQueue.close, a.crashed]
      closed := by simp [WorkQueue.close]
      watched := by simp
      ended := fun _ => rfl
      idle := a.idle
      numbered := by simpa [Deed.accepted?] using a.numbered
      reached := by simpa [Deed.finished?] using a.reached
      whole := by simpa [Deed.finished?] using a.whole }
  | @started c rest alive free waits =>
    have sound : s.queue.worker ≠ .crashed := by simp [alive]
    exact {
      accepted := fun _ => by simp [Deed.accepted?, Deed.started?, a.accepted sound, waits]
      started := fun _ => by simp [Deed.started?, Deed.finished?, a.started sound, free]
      wrecked := fun lost => absurd lost sound
      crashed := by simp [crashed_concat, a.crashed]
      closed := by simp [a.closed]
      watched := by simp [a.watched]
      ended := a.ended
      idle := fun gone => absurd alive gone
      numbered := by simpa [Deed.accepted?] using a.numbered
      reached := by simpa [Deed.finished?] using a.reached
      whole := by simpa [Deed.finished?] using a.whole }
  | @finished c done busy due whole =>
    -- A chore is at work only under a living worker, for which the sums hold.
    have alive : s.queue.worker = .alive := a.alive_of_busy busy
    have sound : s.queue.worker ≠ .crashed := by simp [alive]
    exact {
      accepted := fun _ => by simp [Deed.accepted?, Deed.started?, WorkQueue.finish, a.accepted sound]
      started := fun _ => by simp [Deed.started?, Deed.finished?, WorkQueue.finish, a.started sound, busy]
      wrecked := fun lost => absurd lost sound
      crashed := by simp [crashed_concat, WorkQueue.finish, a.crashed]
      closed := by simp [WorkQueue.finish, a.closed]
      watched := by simp [a.watched]
      ended := a.ended
      idle := fun gone => absurd alive gone
      numbered := by simpa [Deed.accepted?] using a.numbered
      reached := by
        cases marked : c.mark? <;> simp [Deed.finished?, a.reached, marked]
      whole := by simpa [Deed.finished?, or_imp, forall_and, whole] using a.whole }
  | @crashed c busy due crashes =>
    have alive : s.queue.worker = .alive := a.alive_of_busy busy
    have sound : s.queue.worker ≠ .crashed := by simp [alive]
    exact {
      accepted := fun intact => absurd rfl intact
      started := fun intact => absurd rfl intact
      wrecked := fun _ => ⟨c, s.queue.backlog, by simp [Deed.started?, Deed.finished?, a.started sound, busy],
        by simp [Deed.accepted?, Deed.started?, a.accepted sound]⟩
      crashed := by simp [crashed_concat, WorkQueue.crash]
      closed := by simp [WorkQueue.crash, a.closed]
      watched := by simp [a.watched]
      ended := nofun
      idle := fun _ => ⟨rfl, rfl⟩
      numbered := by simpa [Deed.accepted?] using a.numbered
      reached := by simpa [Deed.finished?] using a.reached
      whole := by simpa [Deed.finished?] using a.whole }
  | retired alive free empty closed =>
    have sound : s.queue.worker ≠ .crashed := by simp [alive]
    exact {
      accepted := fun _ => by simp [Deed.accepted?, Deed.started?, a.accepted sound]
      started := fun _ => by simp [Deed.started?, Deed.finished?, a.started sound]
      wrecked := nofun
      crashed := by simp [crashed_concat, ← a.crashed, sound]
      closed := by simp [a.closed]
      watched := by simp [a.watched]
      ended := fun _ => closed
      idle := fun _ => ⟨empty, free⟩
      numbered := by simpa [Deed.accepted?] using a.numbered
      reached := by simpa [Deed.finished?] using a.reached
      whole := by simpa [Deed.finished?] using a.whole }

end Accounted

/-! ## What has to have happened before -/

/-- What has to have happened before a deed. -/
def Deed.Due (early : List Deed) : Deed → Prop
  | accepted _ => ¬ Shut early
  | refused _ => Shut early
  | started _ => ¬ Crashed early ∧ Chores.finished early = Chores.started early
  | finished _ => ¬ Crashed early
  | _ => True

theorem due_of_step (a : Accounted h s) (step : s.Step d t) : d.Due h := by
  have unhurt (alive : s.queue.worker = .alive) : ¬ Crashed h := by
    rw [← a.crashed, alive]
    exact nofun
  cases step with
  | accepted open_ numbered =>
    intro shut
    rw [a.isClosed_iff.mpr shut] at open_
    cases open_
  | refused c shut => exact a.isClosed_iff.mp shut
  | started alive free waits =>
    have begun := a.started (by simp [alive])
    rw [free] at begun
    exact ⟨unhurt alive, by simpa using begun.symm⟩
  | finished busy due whole => exact unhurt (a.alive_of_busy busy)
  | _ => trivial

/-- Nothing in a history has happened before its time. -/
def Lawful (h : List Deed) : Prop := ∀ early d late, h = early ++ d :: late → d.Due early

/-- What happens after something has happened before its time neither. -/
theorem Lawful.due_of_mem_late {early late : List Deed} {e : Deed} (lawful : Lawful h)
    (split : h = early ++ e :: late) (among : d ∈ late) : ∃ mid, d.Due (early ++ e :: mid) := by
  obtain ⟨mid, rest, rfl⟩ := List.append_of_mem among
  exact ⟨mid, lawful (early ++ e :: mid) d rest (by simp [split])⟩

/-- A chore that takes the worker with it is the last one that anything is done about. -/
theorem Lawful.last_of_crashed {early late : List Deed} (lawful : Lawful h) (split : h = early ++ .crashed c :: late) :
    ∀ c', .started c' ∉ late ∧ .accepted c' ∉ late ∧ .finished c' ∉ late := by
  have crashed (mid : List Deed) : Crashed (early ++ .crashed c :: mid) := ⟨c, by simp⟩
  intro c'
  refine ⟨fun among => ?_, fun among => ?_, fun among => ?_⟩ <;>
    obtain ⟨mid, due⟩ := lawful.due_of_mem_late split among
  · exact due.1 (crashed mid)
  · exact due (.inr (crashed mid))
  · exact due (crashed mid)

theorem Lawful.last_of_closed {early late : List Deed} (lawful : Lawful h) (split : h = early ++ .closed :: late) :
    ∀ c, .accepted c ∉ late := by
  intro c among
  obtain ⟨mid, due⟩ := lawful.due_of_mem_late split among
  exact due (.inl (by simp))

/-- After any run the queue is what its history says, and nothing has happened before its time. -/
theorem accounted_play (ms : List Move) : Accounted (play ms).1 (play ms).2 ∧ Lawful (play ms).1 := by
  induction ms using List.reverseRecOn with
  | nil => exact ⟨accounted_fresh, fun early d late split => by simp [play] at split⟩
  | append_singleton ms m ih =>
    obtain ⟨a, due⟩ := ih
    rw [play_concat, proceed]
    cases acts : (play ms).2.act? m with
    | none => exact ⟨a, due⟩
    | some taken =>
      obtain ⟨d, t⟩ := taken
      have step := step_of_act? acts
      exact ⟨a.step step, forall_split_concat.mpr ⟨due, due_of_step a step⟩⟩

/-- A run that goes on adds to its history. -/
theorem exists_later (ms more : List Move) : ∃ late, (play (ms ++ more)).1 = (play ms).1 ++ late := by
  induction more using List.reverseRecOn with
  | nil => exact ⟨[], by simp⟩
  | append_singleton more m ih =>
    obtain ⟨late, eq⟩ := ih
    rw [← List.append_assoc, play_concat, proceed]
    cases (play (ms ++ more)).2.act? m with
    | none => exact ⟨late, eq⟩
    | some taken => exact ⟨late ++ [taken.1], by simp [eq]⟩

/-! ## Waiting until everything is done -/

/-- What somebody is told who waits for a mark; `none` as long as they wait. -/
def answer? (s : Chores) (t : Nat) : Option (Except SessionError Unit) :=
  if t ∈ s.reached then some (.ok ())
  else if s.queue.worker = .alive then none
  else some (.error .queueClosed)

namespace Accounted

variable {t : Nat} {early late : List Deed}

theorem mem_reached_iff (a : Accounted h s) : t ∈ s.reached ↔ .mark t ∈ finished h := by
  simp [a.reached, Chore.mark?_eq_some_iff]

theorem answer?_eq_ok_iff (a : Accounted h s) : s.answer? t = some (.ok ()) ↔ .mark t ∈ finished h := by
  rw [← a.mem_reached_iff, answer?]
  by_cases told : t ∈ s.reached
  · simp [told]
  · by_cases alive : s.queue.worker = .alive <;> simp [told, alive]

theorem answer?_eq_error_iff (a : Accounted h s) :
    s.answer? t = some (.error .queueClosed) ↔ .mark t ∉ finished h ∧ s.queue.worker ≠ .alive := by
  rw [← a.mem_reached_iff, answer?]
  by_cases told : t ∈ s.reached
  · simp [told]
  · by_cases alive : s.queue.worker = .alive <;> simp [told, alive]

/-- A mark is come to only after everything that was accepted before it: no other mark has its number. -/
theorem prefix_of_mark (a : Accounted h s) (split : h = early ++ .accepted (.mark t) :: late)
    (told : .mark t ∈ finished h) : Chores.accepted early <+: finished h := by
  have jobs : Chores.accepted h = Chores.accepted early ++ .mark t :: Chores.accepted late := by
    simp [split, Chores.accepted, Deed.accepted?]
  have unique : .mark t ∉ Chores.accepted early := by
    intro twice
    have numbers : ((Chores.accepted h).filterMap Chore.mark?).Nodup := a.numbered ▸ List.nodup_range
    rw [jobs, List.filterMap_append, List.filterMap_cons_some (show (Chore.mark t).mark? = some t from rfl)] at numbers
    have apart := (List.nodup_append.mp numbers).2.2
    exact apart t (List.mem_filterMap.mpr ⟨_, twice, rfl⟩) t List.mem_cons_self rfl
  have before : Chores.accepted early <+: Chores.accepted h := ⟨_, jobs.symm⟩
  apply List.prefix_of_prefix_length_le before a.finished_prefix
  -- If less were finished than was accepted before the mark, the mark would not be among it.
  by_contra short
  have within := List.prefix_of_prefix_length_le a.finished_prefix before (by omega)
  exact unique (within.subset told)

/-- Nobody who waits is forgotten: when nothing is left to do every mark was come to. -/
theorem told_of_idle (a : Accounted h s) (idle : s.queue.isIdle = true) (sound : s.queue.worker ≠ .crashed)
    (handed : .accepted (.mark t) ∈ h) : .mark t ∈ finished h := by
  obtain ⟨empty, free⟩ := (WorkQueue.isIdle_iff _).mp idle
  have all : Chores.accepted h = finished h := by simpa [empty, free] using a.accepted_eq sound
  rw [← all]
  exact List.mem_filterMap.mpr ⟨_, handed, rfl⟩

theorem isSome_answer?_of_idle (a : Accounted h s) (idle : s.queue.isIdle = true)
    (handed : .accepted (.mark t) ∈ h) : (s.answer? t).isSome = true := by
  by_cases told : .mark t ∈ finished h
  · simp [a.answer?_eq_ok_iff.mpr told]
  · have gone : s.queue.worker ≠ .alive := by
      intro alive
      exact told (a.told_of_idle idle (by simp [alive]) handed)
    simp [a.answer?_eq_error_iff.mpr ⟨told, gone⟩]

/-- Only a chore that has taken the worker with it is a reason to tell somebody that not everything was done. -/
theorem crashed_of_answer? (a : Accounted h s) (handed : .accepted (.mark t) ∈ h)
    (told : s.answer? t = some (.error .queueClosed)) : Crashed h := by
  obtain ⟨untold, gone⟩ := a.answer?_eq_error_iff.mp told
  rw [← a.crashed]
  by_contra intact
  -- A worker that has ended by itself has come to every mark.
  have idle := (WorkQueue.isIdle_iff _).mpr (a.idle gone)
  exact untold (a.told_of_idle idle intact handed)

/-- Who still waits when a chore takes the worker with it is told so. -/
theorem answer?_of_crashed (a : Accounted h s) (lawful : Lawful h) (split : h = early ++ .crashed c :: late)
    (unfinished : .finished (.mark t) ∉ early) : s.answer? t = some (.error .queueClosed) := by
  refine a.answer?_eq_error_iff.mpr ⟨fun told => ?_, ?_⟩
  · have done : .finished (.mark t) ∈ h := by
      obtain ⟨d, among, eq⟩ := List.mem_filterMap.mp told
      cases d <;> cases eq
      exact among
    rw [split] at done
    rcases List.mem_append.mp done with before | after
    · exact unfinished before
    · exact (lawful.last_of_crashed split (.mark t)).2.2 ((List.mem_cons.mp after).resolve_left nofun)
  · rw [a.crashed.mpr ⟨c, by simp [split]⟩]
    exact nofun

end Accounted

end Chores

end BrokerSession
