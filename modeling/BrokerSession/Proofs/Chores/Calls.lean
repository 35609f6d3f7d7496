import BrokerSession.Proofs.Chores
import BrokerSession.Proofs.Schedule
import Mathlib.Algebra.GroupWithZero.Nat

/-!
# What the callers of a queue are told

Who waits until everything is done, or closes a queue, lets the worker go on and time pass, and looks at the queue in
between. So a call is a run of its own, and what is known of runs says what it comes back with: it comes back, and with
an error only for a reason.

## Main definitions

* `Chores.Later` - the states that a run comes to when nobody does anything more
* `Chores.Sound` - no chore that is left will take the worker with it
* `Chores.remaining` - how long the worker has to go on

## Main results

* `Chores.winds_process` - a queue that nobody adds to runs down
* `Chores.awaitIdle_of_open` - how waiting ends on a queue that accepts something
* `Chores.close_eq` - how closing ends
* `Chores.chores_of_history` - everything that a queue promises, after any run
-/

namespace BrokerSession.Chores

variable {ms : List Move} {s t u : Chores} {c : Chore} {deadline : Option Nat}

/-! ## Nobody adds anything -/

/-- Whether a deed is one of the worker. -/
def Deed.isWork : Deed → Bool
  | started _ | finished _ | crashed _ | retired => true
  | _ => false

theorem isWork_task (s : Chores) : s.task.isWork = true := by
  unfold task
  split
  · split <;> rfl
  · rfl
  · rfl

theorem step_of_process (taken : process.step s = some t) : ∃ d, s.Step d t ∧ d.isWork = true :=
  ⟨s.task, step_of_workerStep? taken, isWork_task s⟩

/-- Whether a move happens by itself. -/
def Move.isQuiet : Move → Bool
  | work | pass _ => true
  | _ => false

/-- A run comes to a state when nobody does anything more. -/
def Later (ms : List Move) (u : Chores) : Prop :=
  ∃ more, (∀ m ∈ more, m.isQuiet = true) ∧ (play (ms ++ more)).2 = u

theorem Later.act {m : Move} {d : Deed} (later : Later ms u) (quiet : m.isQuiet = true)
    (acts : u.act? m = some (d, t)) : Later ms t := by
  obtain ⟨more, still, rfl⟩ := later
  refine ⟨more ++ [m], fun m' among => ?_, ?_⟩
  · rcases List.mem_append.mp among with old | new
    · exact still m' old
    · rwa [List.mem_singleton.mp new]
  · rw [← List.append_assoc, play_concat, proceed, acts]

theorem Later.tick {time : Nat} (later : Later ms u) (ahead : u.clock ≤ time) :
    Later ms (process.tick time u) := by
  refine later.act (m := .pass (time - u.clock)) (d := .passed) rfl ?_
  simp [act?, process, Nat.add_sub_cancel' ahead]

/-- A run in which nobody does anything more adds to the history. -/
theorem Later.accounted {h : List Deed} (played : play ms = (h, s)) (later : Later ms u) :
    ∃ late, Accounted (h ++ late) u := by
  obtain ⟨more, -, rfl⟩ := later
  obtain ⟨late, grown⟩ := exists_later ms more
  have a := (accounted_play (ms ++ more)).1
  rw [grown, played] at a
  exact ⟨late, a⟩

theorem lt_of_wake? {time : Nat} (wakes : process.wake? u = some time) :
    u.queue.active.isSome = true ∧ u.clock < u.due ∧ time = u.due := by
  simp only [process, Bool.and_eq_true, decide_eq_true_eq, Option.ite_none_right_eq_some, Option.some.injEq] at wakes
  exact ⟨wakes.1.1, wakes.1.2, wakes.2.symm⟩

theorem lasts_later (ms : List Move) : process.Lasts deadline (Later ms) where
  step u v later step := later.act (m := .work) rfl (Option.map_eq_some_iff.mpr ⟨v, step, rfl⟩)
  tick u time later wakes _ := by
    obtain ⟨-, ahead, rfl⟩ := lt_of_wake? wakes
    exact later.tick (Nat.le_of_lt ahead)

/-- How much there is to do: a chore is started and finished, and the worker may end. -/
def effort (s : Chores) : Nat :=
  2 * s.queue.backlog.length + s.queue.active.toList.length + if s.queue.worker = .alive then 1 else 0

/-- A queue that nobody adds to runs down. -/
theorem winds_process : process.Winds effort where
  step w u taken := by
    obtain ⟨d, step, byWorker⟩ := step_of_process taken
    cases step with
    | accepted | refused | closed | passed => cases byWorker
    | started alive free waits => simp [effort, free, waits]; omega
    | finished busy due whole =>
      by_cases alive : w.queue.worker = .alive <;> simp [effort, busy, WorkQueue.finish, alive]
    | crashed busy due crashes =>
      have nothing : effort { w with queue := w.queue.crash } = 0 := rfl
      have something : 1 ≤ effort w := by
        simp only [effort, busy, Option.toList_some, List.length_singleton]
        omega
      omega
    | retired alive free empty closed => simp [effort, alive]
  tick time w := rfl
  wake w time wakes := by
    obtain ⟨busy, ahead, rfl⟩ := lt_of_wake? wakes
    obtain ⟨c, busy⟩ := Option.isSome_iff_exists.mp busy
    simp [process, workerStep?, busy]
  bound w := by
    have one : w.queue.active.toList.length ≤ 1 := by cases w.queue.active <;> simp
    have two : (if w.queue.worker = .alive then 1 else 0) ≤ 1 := by split <;> omega
    simp only [effort, process]
    omega

/-! ## What is left to do -/

/-- What is left: the chore at work and those that wait. -/
def left (s : Chores) : List Chore := s.queue.active.toList ++ s.queue.backlog

/-- How long the worker has to go on with what is left. -/
def remaining (s : Chores) : Nat :=
  (if s.queue.active.isSome then s.due - s.clock else 0) + (s.queue.backlog.map millis).sum

/-- Nothing that is left will take the worker with it, and the worker goes only if the queue is closed. -/
structure Sound (open_ : Bool) (s : Chores) : Prop where
  whole : ∀ c ∈ s.left, c.crashes = false
  sound : s.queue.worker ≠ .crashed
  accepting : s.queue.accepting = open_
  stays : open_ = true → s.queue.worker = .alive

theorem lasts_sound (open_ : Bool) : process.Lasts deadline (Sound open_) where
  step w u h taken := by
    obtain ⟨d, step, byWorker⟩ := step_of_process taken
    obtain ⟨whole, sound, same, stays⟩ := h
    cases step with
    | accepted | refused | closed | passed => cases byWorker
    | started alive free waits => exact ⟨by simpa [left, free, waits] using whole, sound, same, stays⟩
    | finished busy due _ =>
      have others : ∀ c ∈ w.queue.backlog, c.crashes = false := fun c among => whole c (by simp [left, among])
      exact ⟨by simpa [left, WorkQueue.finish] using others, sound, same, stays⟩
    | @crashed c busy due crashes =>
      have harmless := whole c (by simp [left, busy])
      rw [harmless] at crashes
      cases crashes
    | retired alive free empty closed =>
      refine ⟨by simp [left, free, empty], by simp, same, fun accepts => ?_⟩
      rw [same, accepts] at closed
      cases closed
  tick w time h wakes _ := ⟨h.whole, h.sound, h.accepting, h.stays⟩

/-- The worker is not held up: what it will have done, and when, is known beforehand. -/
theorem lasts_remaining (limit : Nat) : process.Lasts deadline fun u => u.clock + u.remaining ≤ limit where
  step w u h taken := by
    obtain ⟨d, step, byWorker⟩ := step_of_process taken
    cases step with
    | accepted | refused | closed | passed => cases byWorker
    | started alive free waits =>
      simp only [remaining, free, waits, List.map_cons, List.sum_cons] at h
      simp only [remaining]
      simpa [Nat.add_assoc] using h
    | finished busy due whole =>
      simp only [remaining] at h
      simp only [remaining, WorkQueue.finish, Option.isSome_none, Bool.false_eq_true, if_false]
      omega
    | crashed busy due crashes =>
      simp only [remaining] at h
      simp only [remaining, WorkQueue.crash, Option.isSome_none, Bool.false_eq_true, if_false, List.map_nil,
        List.sum_nil]
      omega
    | retired alive free empty closed => exact h
  tick w time h wakes _ := by
    obtain ⟨busy, ahead, rfl⟩ := lt_of_wake? wakes
    simp only [remaining, busy, if_true] at h
    simp only [process, remaining, busy, if_true]
    omega

/-- Nobody waits longer than until the deadline. -/
theorem lasts_clock (end_ : Nat) : process.Lasts (some end_) fun u => u.clock ≤ end_ where
  step w u h taken := by
    obtain ⟨d, step, byWorker⟩ := step_of_process taken
    cases step with
    | passed => cases byWorker
    | _ => exact h
  tick w time h wakes early := Nat.le_of_lt (early end_ rfl)

/-- Where a worker that is there comes to rest, it works on something, or nothing is left and more may come. -/
theorem rest_cases (rests : process.step u = none) (alive : u.queue.worker = .alive) :
    u.queue.active.isSome = true ∧ process.wake? u = some u.due ∧ u.clock < u.due ∨
      u.queue.isIdle = true ∧ u.queue.accepting = true := by
  simp only [process, workerStep?] at rests
  cases busy : u.queue.active with
  | some c =>
    have ahead : u.clock < u.due := by simpa [busy] using rests
    exact .inl ⟨rfl, by simp [process, busy, ahead], ahead⟩
  | none =>
    refine .inr ?_
    simp only [busy] at rests
    cases waits : u.queue.backlog with
    | cons c rest =>
      rw [WorkQueue.start?_eq_some_iff.mpr ⟨alive, busy, rest, waits, rfl⟩] at rests
      cases rests
    | nil =>
      have none_started : u.queue.start? = none := by simp [WorkQueue.start?, alive, busy, waits]
      simp only [none_started, Option.map_eq_none_iff] at rests
      refine ⟨(WorkQueue.isIdle_iff _).mpr ⟨waits, busy⟩, ?_⟩
      by_contra closed
      rw [WorkQueue.retire?_eq_some_iff.mpr ⟨alive, busy, waits, by simpa using closed, rfl⟩] at rests
      cases rests

/-! ## Calls -/

theorem awaitIdle_of_closed (shut : s.queue.isClosed = true) : s.awaitIdle = (.error .queueClosed, s) := by
  simp [awaitIdle, enqueue, WorkQueue.enqueue?, shut]

theorem enqueue_of_closed (shut : s.queue.isClosed = true) (c : Chore) : s.enqueue c = .error .queueClosed := by
  simp [enqueue, WorkQueue.enqueue?, shut]

/-- The queue when somebody has begun to wait. -/
def marked (s : Chores) : Chores :=
  { s with queue := { s.queue with backlog := s.queue.backlog ++ [.mark s.nextMark] }, nextMark := s.nextMark + 1 }

/-- Whether somebody who waits for a mark is told something. -/
def tells (number : Nat) (s : Chores) : Bool := s.reached.contains number || s.queue.worker != .alive

theorem enqueue_mark (open_ : s.queue.isClosed = false) :
    ({ s with nextMark := s.nextMark + 1 } : Chores).enqueue (.mark s.nextMark) = .ok s.marked := by
  simp [enqueue, WorkQueue.enqueue?, open_, marked]

/-- Waiting on a queue that accepts something is handing in a mark, and waiting until something is told about it. -/
theorem awaitIdle_eq (open_ : s.queue.isClosed = false) :
    s.awaitIdle =
      let v := (process.waitFor (tells s.nextMark) none s.marked).state
      if v.reached.contains s.nextMark then (.ok (), v) else (.error .queueClosed, v) := by
  simp only [awaitIdle, enqueue_mark open_]
  rfl

theorem play_awaitIdle {h : List Deed} (played : play ms = (h, s)) (open_ : s.queue.isClosed = false) :
    play (ms ++ [.awaitIdle]) = (h ++ [.accepted (.mark s.nextMark)], s.marked) := by
  simp only [play_concat, proceed, played, act?, handIn, enqueue_mark open_]

theorem sound_marked (open_ : s.queue.isClosed = false) (whole : ∀ c ∈ s.left, c.crashes = false) :
    Sound true s.marked := by
  obtain ⟨accepting, alive⟩ := Accounted.alive_of_open open_
  have more : s.marked.left = s.left ++ [.mark s.nextMark] := by simp [left, marked]
  refine ⟨?_, by simp [marked, alive], accepting, fun _ => alive⟩
  intro c among
  rw [more] at among
  rcases List.mem_append.mp among with old | mark
  · exact whole c old
  · rw [List.mem_singleton.mp mark]
    rfl

/-- Somebody who waits for a mark is told something. -/
theorem tells_of_ends {number : Nat} {P : Chores → Prop} {w : Process.Waited Chores}
    (ends : process.Ends P (tells number) none w)
    (history : ∀ u, P u → ∃ h, Accounted h u ∧ .accepted (.mark number) ∈ h) :
    P w.state ∧ (number ∈ w.state.reached ∨ w.state.queue.worker ≠ .alive) := by
  cases ends with
  | met lasts told => exact ⟨lasts, by simpa [tells, Process.Waited.state] using told⟩
  | stuck lasts missed rests sleeps =>
    simp only [tells, Bool.or_eq_false_iff, bne_eq_false_iff_eq] at missed
    obtain ⟨untold, alive⟩ := missed
    -- Nothing is left to do, so the mark was come to.
    obtain ⟨h, a, handed⟩ := history _ lasts
    obtain ⟨-, wakes, -⟩ | ⟨idle, -⟩ := rest_cases rests alive
    · exact absurd (wakes.symm.trans sleeps) nofun
    · have told := a.mem_reached_iff.mpr (a.told_of_idle idle (by simp [alive]) handed)
      exact ⟨lasts, .inl told⟩

/-- Waiting on a queue that accepts something ends, and as the run in which the others do nothing says. It ends well
exactly if nothing that is left takes the worker with it. -/
theorem awaitIdle_of_open (ms : List Move) (open_ : (play ms).2.queue.isClosed = false) :
    ∃ more, (∀ m ∈ more, m.isQuiet = true) ∧
      (play (ms ++ .awaitIdle :: more)).2 = (play ms).2.awaitIdle.2 ∧
      (play ms).2.awaitIdle.2.answer? (play ms).2.nextMark = some (play ms).2.awaitIdle.1 ∧
      ((play ms).2.awaitIdle.1 = .ok () ↔ ∀ c ∈ (play ms).2.left, c.crashes = false) := by
  have a := (accounted_play ms).1
  rcases played : play ms with ⟨h, s⟩
  simp only [played] at open_ a ⊢
  have first := play_awaitIdle played open_
  have history (u : Chores) (later : Later (ms ++ [.awaitIdle]) u) :
      ∃ late, Accounted (h ++ .accepted (.mark s.nextMark) :: late) u := by
    simpa using later.accounted first
  -- From here on nobody does anything, and if nothing crashes the worker stays.
  have ends : process.Ends _ (tells s.nextMark) none _ :=
    Process.ends_waitFor winds_process ((lasts_later (ms ++ [.awaitIdle])).and (lasts_sound true).imp)
      ⟨⟨[], by simp, by simp [first]⟩, sound_marked open_⟩
  obtain ⟨⟨later, stays⟩, told⟩ := tells_of_ends ends fun u lasts =>
    (history u lasts.1).elim fun late a => ⟨_, a, by simp⟩
  have called := awaitIdle_eq open_
  generalize (process.waitFor (tells s.nextMark) none s.marked).state = v at called later stays told
  obtain ⟨late, a'⟩ := history v later
  obtain ⟨more, quiet, same⟩ := later
  rw [List.append_assoc] at same
  by_cases reached : s.nextMark ∈ v.reached
  · have result : s.awaitIdle = (.ok (), v) := by simp [called, reached]
    have come := a'.mem_reached_iff.mp reached
    refine ⟨more, quiet, by simpa [result] using same, by simpa [result] using a'.answer?_eq_ok_iff.mpr come, ?_⟩
    simp only [result, true_iff]
    intro c among
    have before : c ∈ accepted h := by
      rw [a.accepted_eq (by simp [(Accounted.alive_of_open open_).2])]
      exact List.mem_append_right _ among
    exact a'.whole c ((a'.prefix_of_mark rfl come).subset before)
  · have gone := told.resolve_left reached
    have result : s.awaitIdle = (.error .queueClosed, v) := by simp [called, reached]
    have lost := a'.answer?_eq_error_iff.mpr ⟨reached ∘ a'.mem_reached_iff.mpr, gone⟩
    refine ⟨more, quiet, by simpa [result] using same, by simpa [result] using lost, ?_⟩
    simp only [result, reduceCtorEq, false_iff]
    intro whole
    exact gone ((stays whole).stays rfl)

/-- The first to close a queue waits until the worker is gone, or until the time is up and the worker still rests. -/
theorem close_of_watched {P : Chores → Prop} (watched : s.watched = true)
    (lasts : process.Lasts (some (s.clock + drainLimit)) P)
    (start : P { s with queue := s.queue.close, watched := false }) :
    ∃ u journal, P u ∧
      (s.close = { u with journal } ∧ u.queue.worker ≠ .alive ∨
        s.close = { process.tick (s.clock + drainLimit) u with journal } ∧ u.queue.worker = .alive ∧
          process.step u = none ∧ ∀ wakes, process.wake? u = some wakes → s.clock + drainLimit ≤ wakes) := by
  have ends : process.Ends P (fun u => u.queue.worker != .alive) _ _ := Process.ends_waitFor winds_process lasts start
  cases waited : process.waitFor (fun u => u.queue.worker != .alive) (some (s.clock + drainLimit))
    { s with queue := s.queue.close, watched := false } with
  | met u =>
    rw [waited] at ends
    cases ends with
    | met lasts reached =>
      have gone : u.queue.worker ≠ .alive := by simpa using reached
      by_cases wreck : u.queue.worker = .crashed
      · exact ⟨u, _, lasts, .inl ⟨by simp only [close, watched, waited, wreck]; rfl, gone⟩⟩
      · exact ⟨u, u.journal, lasts, .inl ⟨by simp [close, watched, waited, wreck], gone⟩⟩
  | expired u =>
    rw [waited] at ends
    cases ends with
    | expired lasts missed rests late =>
      exact ⟨_, _, lasts, .inr ⟨by simp only [close, watched, waited]; rfl, by simpa using missed, rests, late⟩⟩
  | stuck u =>
    rw [waited] at ends
    cases ends

/-- Closing a queue ends, and as the run in which the others do nothing says. If the worker is there, nothing that is
left takes it along and the time for it is not up before, the worker has ended. -/
theorem close_eq (ms : List Move) :
    ∃ more journal, (∀ m ∈ more, m.isQuiet = true) ∧
      (play ms).2.close = { (play (ms ++ .close :: more)).2 with journal } ∧
      ((play ms).2.watched = true → (play ms).2.queue.worker ≠ .crashed →
        (∀ c ∈ (play ms).2.left, c.crashes = false) → (play ms).2.remaining < drainLimit →
        (play ms).2.close.queue.worker = .ended) := by
  rcases played : play ms with ⟨h, s⟩
  dsimp only
  -- The first move of the run is the call itself; the others are those of the worker and the clock.
  have first : play (ms ++ [.close]) = (h ++ [.closed], { s with queue := s.queue.close, watched := false }) := by
    rw [play_concat, proceed, played]
    rfl
  by_cases watched : s.watched = true
  · obtain ⟨u, journal, ⟨⟨later, clock⟩, busy, sound⟩, ends⟩ := close_of_watched watched
      (((lasts_later (ms ++ [.close])).and (lasts_clock _)).and
        ((lasts_remaining (s.clock + s.remaining)).and
          ((lasts_sound false).imp (H := s.queue.worker ≠ .crashed ∧ ∀ c ∈ s.left, c.crashes = false))))
      ⟨⟨⟨[], by simp, by simp [first]⟩, by simp⟩, Nat.le_refl _, fun whole => ⟨whole.2, whole.1, rfl, by simp⟩⟩
    rcases ends with ⟨noted, gone⟩ | ⟨noted, alive, rests, late⟩
    · obtain ⟨more, quiet, same⟩ := later
      refine ⟨more, journal, quiet, ?_, fun _ intact whole _ => ?_⟩
      · rw [noted, ← same, List.append_assoc]
        rfl
      · have uncrashed := (sound ⟨intact, whole⟩).sound
        rw [noted]
        dsimp only
        cases worker : u.queue.worker with
        | ended => rfl
        | alive => exact absurd worker gone
        | crashed => exact absurd worker uncrashed
    · obtain ⟨more, quiet, same⟩ := later.tick clock
      refine ⟨more, journal, quiet, ?_, fun _ intact whole short => ?_⟩
      · rw [noted, ← same, List.append_assoc]
        rfl
      · -- A worker that is still there rests before a timer, and the timer is one for which there was time.
        obtain ⟨active, wakes, ahead⟩ | ⟨-, accepting⟩ := rest_cases rests alive
        · have overdue := late _ wakes
          rw [remaining, active, if_pos rfl] at busy
          omega
        · rw [(sound ⟨intact, whole⟩).accepting] at accepting
          cases accepting
  · -- A queue is closed only once, and the second call does nothing.
    have unwatched : s.watched = false := by simpa using watched
    refine ⟨[], s.journal, by simp, ?_, fun watched' => absurd watched' watched⟩
    simp [first, close, unwatched]

/-- Whatever its callers, its worker and the clock do, a queue of chores keeps to this. Chores are started in the order
in which they were accepted, each only when all that were started before are done. Who waits is told that everything is
done only when everything is done that was accepted before they began to wait; they are told that it is not only if a
chore has taken the worker with it; and they are told something once nothing is left. A chore that takes the worker with
it is the last one that is started, and who still waits, or comes later, is told so. A queue that was closed is one that
finishes what it has accepted before its worker ends. And what is refused, because the queue was closed or has lost its
worker and for no other reason, is refused at once and changes nothing.

The calls that take their time are such runs too, with nobody doing anything more: waiting ends well exactly if nothing
that is left takes the worker with it, and closing a queue, exactly once and in time, finishes everything. -/
theorem chores_of_history (ms : List Move) {h : List Deed} {s : Chores} (played : play ms = (h, s)) :
    (started h <+: accepted h ∧
      ∀ early c late, h = early ++ .started c :: late → finished early = started early) ∧
    (∀ early t late, h = early ++ .accepted (.mark t) :: late →
      (s.answer? t = some (.ok ()) → accepted early <+: finished h) ∧
      (s.answer? t = some (.error .queueClosed) → Crashed h) ∧
      (s.queue.isIdle = true → (s.answer? t).isSome = true)) ∧
    (∀ early c late, h = early ++ .crashed c :: late →
      (∀ c', .started c' ∉ late ∧ .accepted c' ∉ late) ∧
      ∀ t, .finished (.mark t) ∉ early → s.answer? t = some (.error .queueClosed)) ∧
    (∀ early late, h = early ++ .closed :: late →
      (∀ c, .accepted c ∉ late) ∧ (s.queue.worker = .ended → finished h = accepted h)) ∧
    ((∀ early c late, h = early ++ .refused c :: late → Shut early) ∧
      (Shut h → (∀ c, s.enqueue c = .error .queueClosed) ∧ s.awaitIdle = (.error .queueClosed, s))) ∧
    (¬ Shut h → ∃ more h', (∀ m ∈ more, m.isQuiet = true) ∧
      play (ms ++ .awaitIdle :: more) = (h', s.awaitIdle.2) ∧
      s.awaitIdle.2.answer? s.nextMark = some s.awaitIdle.1 ∧
      (s.awaitIdle.1 = .ok () ↔ ∀ c ∈ s.left, c.crashes = false)) ∧
    ∃ more h' s' journal, (∀ m ∈ more, m.isQuiet = true) ∧ play (ms ++ .close :: more) = (h', s') ∧
      s.close = { s' with journal } ∧
      (.closed ∉ h → ¬ Crashed h → (∀ c ∈ s.left, c.crashes = false) → s.remaining < drainLimit →
        finished h' = accepted h') := by
  obtain ⟨a, lawful⟩ : Accounted h s ∧ Lawful h := by
    have both := accounted_play ms
    rwa [played] at both
  refine ⟨⟨a.started_prefix, fun early c late split => (lawful _ _ _ split).2⟩, ?_, ?_, ?_, ⟨?_, ?_⟩, ?_, ?_⟩
  · intro early t late split
    have handed : .accepted (.mark t) ∈ h := by simp [split]
    exact ⟨fun told => a.prefix_of_mark split (a.answer?_eq_ok_iff.mp told), a.crashed_of_answer? handed,
      fun idle => a.isSome_answer?_of_idle idle handed⟩
  · intro early c late split
    have last := lawful.last_of_crashed split
    exact ⟨fun c' => ⟨(last c').1, (last c').2.1⟩, fun t unfinished => a.answer?_of_crashed lawful split unfinished⟩
  · intro early late split
    exact ⟨lawful.last_of_closed split, a.finished_eq_of_ended⟩
  · exact fun early c late split => lawful _ _ _ split
  · intro shut
    have closed := a.isClosed_iff.mpr shut
    exact ⟨enqueue_of_closed closed, awaitIdle_of_closed closed⟩
  · intro unshut
    have open_ : s.queue.isClosed = false := Bool.eq_false_iff.mpr (unshut ∘ a.isClosed_iff.mp)
    have call := awaitIdle_of_open ms
    rw [played] at call
    obtain ⟨more, quiet, same, answer, result⟩ := call open_
    exact ⟨more, _, quiet, Prod.ext rfl same, answer, result⟩
  · have call := close_eq ms
    rw [played] at call
    obtain ⟨more, journal, quiet, same, ends⟩ := call
    refine ⟨more, _, _, journal, quiet, rfl, same, fun unclosed intact whole short => ?_⟩
    -- A queue that was not closed before is still watched.
    have watched : s.watched = true := Bool.not_eq_false _ ▸ unclosed ∘ a.watched.mp
    have ended := ends watched (intact ∘ a.crashed.mp) whole short
    rw [same] at ended
    exact (accounted_play _).1.finished_eq_of_ended ended

/-- Somebody waits for two chores, and the second one takes the worker with it. They are told so, and so is everybody
who comes later. -/
theorem chores_of_history_wrecked :
    let ms : List Move := [.enqueue "first" 5 false, .enqueue "second" 0 true, .awaitIdle, .work, .pass 5, .work, .work,
      .work]
    ∃ h s, play ms = (h, s) ∧ started h = [.work "first" 5 false, .work "second" 0 true] ∧
      finished h = [.work "first" 5 false] ∧ s.answer? 0 = some (.error .queueClosed) ∧
      s.awaitIdle = (.error .queueClosed, s) := by
  intro ms
  obtain ⟨-, -, wrecked, -, ⟨-, refused⟩, -⟩ := chores_of_history ms rfl
  have told := (wrecked ((play ms).1.take 7) (.work "second" 0 true) [] (by decide)).2 0 (by decide)
  have later := (refused (.inr ⟨.work "second" 0 true, by decide⟩)).2
  exact ⟨_, _, rfl, by decide, by decide, told, later⟩

end BrokerSession.Chores
