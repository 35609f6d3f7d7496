import BrokerSession.Proofs.Session.Worker

/-!
# Keeping a record of an engine

Any engine can be given a record that it keeps of the commands it hears and of the replies it gives. The record has
no influence: a session over the engine with its record moves exactly as the session over the engine itself, and so
what is found in the record was said to the engine.

## Main definitions

* `Recorded`, `Engine.recorded` - an engine with its record
* `Session.recording`, `Session.plain` - a session whose engine begins a record, and one whose record is left out
* `Session.Move.recorded` - a move over the engine, as a move over the engine with its record

## Main results

* `plain_after` - leaving the record out of a run is a run without the record
-/

namespace BrokerSession

/-- The state of an engine with its record. -/
structure Recorded (σ : Type) where
  inner : σ
  /-- The commands that the engine has heard, the earliest first. -/
  heard : List Command
  /-- The replies that it has given, the earliest first. -/
  answered : List Reply

/-- An engine that keeps a record. -/
def Engine.recorded {σ : Type} (e : Engine σ) : Engine (Recorded σ) where
  set s x := ((e.set s.inner x).1, { s with inner := (e.set s.inner x).2 })
  attach s := { s with inner := e.attach s.inner }
  call s time cmd := { s with inner := e.call s.inner time cmd, heard := s.heard ++ [cmd] }
  pause s := e.pause s.inner
  finish s time cmd :=
    (e.finish s.inner time cmd).map fun (r, inner) =>
      (r, { s with inner, answered := s.answered ++ [r] })
  deliver s time := (e.deliver s.inner time).map fun (reports, inner) => (reports, { s with inner })
  wake? s := e.wake? s.inner
  pending s := e.pending s.inner
  release s := { s with inner := e.release s.inner }

/-- What the engine answers is put on record. -/
theorem Engine.finish_of_recorded {σ : Type} {e : Engine σ} {s t : Recorded σ} {time : Nat}
    {cmd : Command} {r : Reply} (answered : e.recorded.finish s time cmd = some (r, t)) :
    ∃ inner, e.finish s.inner time cmd = some (r, inner) ∧
      t = { s with inner, answered := s.answered ++ [r] } := by
  obtain ⟨⟨r', inner⟩, finished, eq⟩ := Option.map_eq_some_iff.mp answered
  cases eq
  exact ⟨inner, finished, rfl⟩

theorem Engine.deliver_of_recorded {σ : Type} {e : Engine σ} {s t : Recorded σ} {time : Nat}
    {reports : List Report} (delivered : e.recorded.deliver s time = some (reports, t)) :
    ∃ inner, e.deliver s.inner time = some (reports, inner) ∧ t = { s with inner } := by
  obtain ⟨⟨reports', inner⟩, taken, eq⟩ := Option.map_eq_some_iff.mp delivered
  cases eq
  exact ⟨inner, taken, rfl⟩

namespace Session

variable {σ τ : Type} {e : Engine σ} {c : Config}

/-- The session with another engine in place of its own. -/
def withEngine (s : Session σ) (engine : τ) : Session τ where
  clientId := s.clientId
  key := s.key
  standing := s.standing
  engine
  queue := s.queue
  exchange := s.exchange
  directory := s.directory
  journal := s.journal
  resolved := s.resolved
  nextTicket := s.nextTicket
  tornDown := s.tornDown
  clock := s.clock

/-- The session whose engine begins a record. -/
def recording (s : Session σ) : Session (Recorded σ) := s.withEngine ⟨s.engine, [], []⟩

/-- The session without the record of its engine. -/
def plain (s : Session (Recorded σ)) : Session σ := s.withEngine s.engine.inner

/-- A move over an engine, as a move over the engine with its record. -/
def Move.recorded : Move σ → Move (Recorded σ)
  | order o => .order o
  | close => .close
  | work => .work
  | deliver => .deliver
  | pass millis => .pass millis
  | outside f => .outside fun r => { r with inner := f r.inner }
  | clearDirectory => .clearDirectory
  | crash => .crash

@[simp] theorem plain_recording (s : Session σ) : s.recording.plain = s := rfl

/-! ## The owner -/

theorem withEngine_submit (s : Session σ) (engine : τ) (task : Task) :
    ((s.withEngine engine).submit task).2 = (s.submit task).2.withEngine engine := by
  cases closed : s.queue.isClosed <;>
    simp [submit, draw, enqueue?, WorkQueue.enqueue?, withEngine, closed, resolve, warn, note]

theorem withEngine_mark (s : Session σ) (engine : τ) :
    (s.withEngine engine).mark.2 = s.mark.2.withEngine engine := by
  cases closed : s.queue.isClosed <;>
    simp [mark, draw, enqueue?, WorkQueue.enqueue?, withEngine, closed, resolve]

theorem withEngine_endConnection (s : Session σ) (engine : τ) (teardown : Bool) :
    ((s.withEngine engine).endConnection teardown).2 =
      (s.endConnection teardown).2.withEngine engine := by
  cases running : s.standing.running with
  | true =>
    have resting := withEngine_submit ((s.setRunning false).setPhase .disconnecting) engine
      (.disconnect teardown)
    simpa [endConnection, withEngine, running, setRunning, setPhase] using resting
  | false => simp [endConnection, withEngine, running, draw, resolve]

theorem withEngine_tearDown (s : Session σ) (engine : τ) :
    (s.withEngine engine).tearDown = s.tearDown.withEngine engine := by
  cases here : s.tornDown with
  | true => simp [tearDown, withEngine, here]
  | false =>
    have ended := withEngine_endConnection { s with tornDown := true } engine true
    cases running : s.standing.running with
    | true =>
      simp only [tearDown, withEngine, here, running, if_true, Bool.false_eq_true, if_false] at ended ⊢
      rw [ended]
      cases closed : (endConnection { s with tornDown := true } true).2.queue.isClosed <;>
        simp [enqueue?, WorkQueue.enqueue?, closed, warn, note, unregister]
    | false =>
      cases closed : s.queue.isClosed <;>
        simp [tearDown, withEngine, here, running, enqueue?, WorkQueue.enqueue?, closed, warn, note,
          unregister]

/-- What an owner asks for does not depend on the engine. -/
theorem withEngine_obey (s : Session σ) (engine : τ) (o : Order) :
    (s.withEngine engine).obey c o = (s.obey c o).withEngine engine := by
  cases here : s.tornDown with
  | true => rw [obey_of_tornDown here, obey_of_tornDown (s := s.withEngine engine) here]
  | false =>
    have present : (s.withEngine engine).tornDown = false := here
    cases o with
    | letGo => exact withEngine_tearDown s engine
    | mark =>
      simp only [obey, here, present]
      exact withEngine_mark s engine
    | request op =>
      simp only [obey, here, present]
      cases op with
      | disconnect => exact withEngine_endConnection s engine false
      | connect | connectConfigured | reconnect =>
        exact withEngine_submit ((s.setRunning true).setPhase .connecting) engine _
      | publish | subscribe | unsubscribe => exact withEngine_submit s engine _

/-- No order reaches the engine by itself. -/
theorem obey_engine (s : Session σ) (o : Order) : (s.obey c o).engine = s.engine := by
  have same : s.obey c o = (s.obey c o).withEngine s.engine := withEngine_obey s s.engine o
  rw [same]
  rfl

/-! ## The worker, the event loop and a crash -/

variable {s t : Session (Recorded σ)}

theorem plain_proceed (x : Exchange) (r : Reply) :
    (s.proceed e.recorded x r).plain = s.plain.proceed e x r := by
  rw [proceed_eq, proceed_eq]
  cases x.sequel r <;> rfl

theorem plain_begin (job : Job) : (s.begin e.recorded job).plain = s.plain.begin e job := by
  unfold Session.begin
  cases job.task.opening <;> rfl

theorem plain_workerStep? : (s.workerStep? e.recorded).map plain = s.plain.workerStep? e := by
  unfold workerStep?
  rw [show s.plain.exchange = s.exchange from rfl]
  cases s.exchange with
  | some x =>
    dsimp only
    rw [show s.plain.clock = s.clock from rfl]
    split
    · rfl
    · rw [show e.recorded.finish s.engine s.clock x.command =
        (e.finish s.engine.inner s.clock x.command).map fun (r, inner) =>
          (r, { s.engine with inner, answered := s.engine.answered ++ [r] }) from rfl,
        Option.map_map, Option.map_map]
      refine congrArg (Option.map · _) (funext fun (r, inner) => ?_)
      exact plain_proceed x r
  | none =>
    dsimp only
    rw [show s.plain.queue = s.queue from rfl]
    cases s.queue.start? with
    | some taken => exact congrArg some (plain_begin taken.1)
    | none =>
      rw [Option.map_map]
      rfl

theorem plain_receive (report : Report) : (s.receive report).plain = s.plain.receive report := by
  cases report with
  | retrying attempt delay => rfl
  | event event =>
    simp only [receive, hear]
    rw [show s.plain.directory.lookup? s.plain.key = s.directory.lookup? s.key from rfl]
    cases s.directory.lookup? s.key <;> rfl

theorem plain_loopStep? : (s.loopStep? e.recorded).map plain = s.plain.loopStep? e := by
  have heard (reports : List Report) (u : Session (Recorded σ)) :
      (reports.foldl receive u).plain = reports.foldl receive u.plain := by
    induction reports generalizing u with
    | nil => rfl
    | cons report reports ih => rw [List.foldl_cons, ih, plain_receive, List.foldl_cons]
  unfold loopStep?
  rw [show e.recorded.deliver s.engine s.clock =
    (e.deliver s.engine.inner s.clock).map fun (reports, inner) =>
      (reports, { s.engine with inner }) from rfl, Option.map_map, Option.map_map]
  refine congrArg (Option.map · _) (funext fun (reports, inner) => ?_)
  exact heard reports _

theorem plain_crash : (s.crash e.recorded).plain = s.plain.crash e := by
  have closed (jobs : List Job) (u : Session (Recorded σ)) :
      (jobs.foldl (fun u job => u.resolve job.ticket .closed) u).plain =
        jobs.foldl (fun u job => u.resolve job.ticket .closed) u.plain := by
    induction jobs generalizing u with
    | nil => rfl
    | cons job jobs ih => exact ih _
  have same := closed s.abandoned s
  unfold crash
  dsimp only
  rw [show s.plain.abandoned = s.abandoned from rfl, ← same]
  rfl

/-! ## Runs -/

/-- Leaving the record out of a move is the move without it. -/
theorem plain_move? (m : Move σ) :
    (s.move? e.recorded c m.recorded).map plain = s.plain.move? e c m := by
  cases m with
  | order o =>
    -- An order is the same over every engine, the one inside the record among them.
    have same := withEngine_obey (c := c) s s.engine.inner o
    refine congrArg some (Eq.trans ?_ same.symm)
    rw [plain, obey_engine]
  | close =>
    simp only [Move.recorded, move?]
    rw [show s.plain.tornDown = s.tornDown from rfl]
    split <;> rfl
  | work => exact plain_workerStep?
  | deliver => exact plain_loopStep?
  | pass millis | outside f | clearDirectory => rfl
  | crash =>
    simp only [Move.recorded, move?]
    rw [show s.plain.queue = s.queue from rfl]
    split
    · exact congrArg some plain_crash
    · rfl

/-- Leaving the record out of a run is the run without it. -/
theorem plain_after (ms : List (Move σ)) :
    (s.after e.recorded c (ms.map Move.recorded)).plain = s.plain.after e c ms := by
  induction ms generalizing s with
  | nil => rfl
  | cons m ms ih =>
    have moved : (s.move e.recorded c m.recorded).plain = s.plain.move e c m := by
      unfold move
      rw [← plain_move?]
      cases s.move? e.recorded c m.recorded <;> rfl
    have later := ih (s := s.move e.recorded c m.recorded)
    rw [moved] at later
    exact later

end Session

end BrokerSession
