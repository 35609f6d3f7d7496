import BrokerSession.Proofs.Session.Recording

/-!
# Several callers at once

A call that steers a session is not a single step. It says whether the session is meant to run, moves it to a phase
and hands a task to the worker, one access after another, and in between come the accesses of other callers, the
worker and the event loop. A crowd is a session with several callers at work on it, each somewhere in its call, and
with a log of their accesses.

## Main definitions

* `Session.Steer`, `Session.Access`, `Session.Caller` - the calls, their accesses, and how far one has come
* `Session.Crowd`, `Crowd.after` - a session with its callers, and what becomes of it
* `Crowd.Step` - everything that can happen to a crowd that steers its session alone

## Main results

* `Crowd.after_alone` - a call that nobody interrupts is the operation of the session
* `Crowd.plain_after` - leaving out the record of the engine is a run without it
* `Crowd.after_induction` - what every step keeps is kept by a run
-/

namespace BrokerSession

/-- The command with which a task steers the connection, if it does. -/
def Task.steering? : Task → Option Command
  | connect host port keepAlive => some (.connect host port keepAlive)
  | reconnect => some .reconnect
  | disconnect _ => some .disconnect
  | _ => none

namespace Session

variable {σ : Type} {e : Engine σ} {c : Config}

/-! ## Calls -/

/-- A call that asks for a connection, or ends one. -/
inductive Steer where
  | connect (host : String) (port keepAliveSecs : UInt16)
  | reconnect
  | disconnect
  deriving DecidableEq

namespace Steer

/-- Whether a call asks for a connection. -/
def asks : Steer → Bool
  | disconnect => false
  | _ => true

/-- The phase to which a call moves the session. -/
def phase : Steer → Phase
  | disconnect => .disconnecting
  | _ => .connecting

/-- The task that a call hands to the worker. -/
def task : Steer → Task
  | connect host port keepAlive => .connect host port keepAlive
  | reconnect => .reconnect
  | disconnect => .disconnect false

/-- The operation that a call is. -/
def operation : Steer → Operation
  | connect host port keepAlive => .connect host port keepAlive
  | reconnect => .reconnect
  | disconnect => .disconnect

end Steer

/-- A single access of a call to the session. -/
inductive Access where
  /-- The session is meant to run from now on. -/
  | setRunning
  /-- The session is meant to rest from now on; the caller learns whether it was meant to run. -/
  | swapRunning (was : Bool)
  | setPhase (phase : Phase)
  | enqueue (task : Task)
  deriving DecidableEq

/-- How far a call has come. -/
inductive Stage where
  | entered
  /-- It has said whether the session is meant to run. -/
  | claimed
  /-- It has moved the session to its phase. -/
  | moved
  | returned (ticket : Ticket)
  deriving DecidableEq

/-- Whether a call is over. -/
def Stage.isReturned : Stage → Bool
  | returned _ => true
  | _ => false

/-- A call at work on a session. -/
structure Caller where
  steer : Steer
  stage : Stage
  deriving DecidableEq

/-- The next access of a call: what it is, how far the call has come then, and the session after it. A disconnect
that finds the session at rest is over at once. -/
def Caller.access? (k : Caller) (s : Session σ) : Option (Access × Stage × Session σ) :=
  match k.stage with
  | .entered =>
    if k.steer.asks then some (.setRunning, .claimed, s.setRunning true)
    else if s.standing.running then some (.swapRunning true, .claimed, s.setRunning false)
    else
      let (t, s) := (s.setRunning false).draw
      some (.swapRunning false, .returned t, s.resolve (some t) (.answered (.ofStatus .success)))
  | .claimed => some (.setPhase k.steer.phase, .moved, s.setPhase k.steer.phase)
  | .moved =>
    let (t, s) := s.submit k.steer.task
    some (.enqueue k.steer.task, .returned t, s)
  | .returned _ => none

/-! ## Crowds -/

/-- A session with several callers at work on it. -/
structure Crowd (σ : Type) where
  session : Session σ
  callers : List Caller
  /-- The accesses so far, each with the number of the caller who made it. -/
  log : List (Nat × Access)

/-- A session with calls that have just begun. -/
def crowd (s : Session σ) (steers : List Steer) : Crowd σ := ⟨s, steers.map (⟨·, .entered⟩), []⟩

namespace Crowd

/-- Something that happens to a crowd. -/
inductive Move (σ : Type) where
  /-- A caller makes its next access. -/
  | access (i : Nat)
  /-- The session is moved by somebody else. -/
  | session (m : Session.Move σ)

/-- The crowd after a move, if the move can be made. -/
def move? (e : Engine σ) (c : Config) (w : Crowd σ) : Move σ → Option (Crowd σ)
  | .access i =>
    w.callers[i]?.bind fun k =>
      (k.access? w.session).map fun (access, stage, session) =>
        ⟨session, w.callers.set i { k with stage }, w.log ++ [(i, access)]⟩
  | .session m => (w.session.move? e c m).map fun session => { w with session }

/-- The crowd after a move; a move that cannot be made is passed over. -/
def move (e : Engine σ) (c : Config) (w : Crowd σ) (m : Move σ) : Crowd σ := (w.move? e c m).getD w

/-- The crowd after a run. -/
def after (e : Engine σ) (c : Config) (w : Crowd σ) (ms : List (Move σ)) : Crowd σ :=
  ms.foldl (move e c) w

/-- Whether all calls are over, and nothing is left for the worker. -/
def isDone (w : Crowd σ) : Bool :=
  w.callers.all (·.stage.isReturned) && w.session.queue.isIdle

/-- Whether nobody but the callers steers the session, or lets it go. -/
def Undirected (ms : List (Move σ)) : Prop := ∀ m, .session m ∈ ms → m.steers true = false

end Crowd

/-! ## What a call does next -/

/-- A session after a task was given to its worker. -/
inductive Asked (s : Session σ) (task : Task) : Session σ → Prop
  | taken (taking : s.queue.isClosed = false) :
      Asked s task { s with
        queue := { s.queue with backlog := s.queue.backlog ++ [⟨some s.nextTicket, task⟩] }
        nextTicket := s.nextTicket + 1 }
  | refused (closed : s.queue.isClosed = true) (journal : List Entry) :
      Asked s task { s with
        journal := s.journal ++ journal
        resolved := s.resolved ++ [(s.nextTicket, .closed)]
        nextTicket := s.nextTicket + 1 }

theorem asked_submit (s : Session σ) (task : Task) :
    (s.submit task).1 = s.nextTicket ∧ s.Asked task (s.submit task).2 := by
  cases closed : s.queue.isClosed with
  | false =>
    rw [submit_eq closed]
    exact ⟨rfl, .taken closed⟩
  | true =>
    have refused : s.submit task = (s.nextTicket,
        { s with journal := s.journal ++ [.warning (.commandNotQueued .queueClosed) none]
                 resolved := s.resolved ++ [(s.nextTicket, .closed)]
                 nextTicket := s.nextTicket + 1 }) := by
      simp [submit, draw, enqueue?, WorkQueue.enqueue?, closed, resolve, warn, note]
    rw [refused]
    exact ⟨rfl, .refused closed _⟩

theorem asked_mark (s : Session σ) : s.Asked .mark s.mark.2 := by
  cases closed : s.queue.isClosed with
  | false =>
    have taken : s.Asked .mark _ := .taken closed
    simpa [mark, draw, enqueue?, WorkQueue.enqueue?, closed] using taken
  | true =>
    have refused : s.Asked .mark _ := .refused closed []
    simpa [mark, draw, enqueue?, WorkQueue.enqueue?, closed, resolve] using refused

theorem Asked.standing {s t : Session σ} {task : Task} (asked : s.Asked task t) :
    t.standing = s.standing ∧ t.tornDown = s.tornDown := by
  cases asked <;> exact ⟨rfl, rfl⟩

theorem Asked.engine {s t : Session σ} {task : Task} (asked : s.Asked task t) :
    t.engine = s.engine ∧ t.exchange = s.exchange := by
  cases asked <;> exact ⟨rfl, rfl⟩

namespace Caller

/-- What a call does next. -/
inductive Step (s : Session σ) : Caller → Access → Stage → Session σ → Prop
  | claim {steer : Steer} (asks : steer.asks = true) :
      Step s ⟨steer, .entered⟩ .setRunning .claimed (s.setRunning true)
  | swap (runs : s.standing.running = true) :
      Step s ⟨.disconnect, .entered⟩ (.swapRunning true) .claimed (s.setRunning false)
  | skip (rests : s.standing.running = false) :
      Step s ⟨.disconnect, .entered⟩ (.swapRunning false) (.returned s.nextTicket)
        { s with resolved := s.resolved ++ [(s.nextTicket, .answered (.ofStatus .success))]
                 nextTicket := s.nextTicket + 1 }
  | move {steer : Steer} :
      Step s ⟨steer, .claimed⟩ (.setPhase steer.phase) .moved (s.setPhase steer.phase)
  | submit {steer : Steer} {t : Session σ} (asked : s.Asked steer.task t) :
      Step s ⟨steer, .moved⟩ (.enqueue steer.task) (.returned s.nextTicket) t

theorem step_of_access? {k : Caller} {s t : Session σ} {access : Access} {stage : Stage}
    (made : k.access? s = some (access, stage, t)) : k.Step s access stage t := by
  obtain ⟨steer, at_⟩ := k
  cases at_ with
  | entered =>
    cases asks : steer.asks with
    | true =>
      simp only [access?, asks, if_true, Option.some.injEq, Prod.mk.injEq] at made
      obtain ⟨rfl, rfl, rfl⟩ := made
      exact .claim asks
    | false =>
      obtain rfl : steer = .disconnect := by
        cases steer with
        | disconnect => rfl
        | _ => cases asks
      cases running : s.standing.running with
      | true =>
        simp only [access?, Steer.asks, running, if_true, Bool.false_eq_true, if_false,
          Option.some.injEq, Prod.mk.injEq] at made
        obtain ⟨rfl, rfl, rfl⟩ := made
        exact .swap running
      | false =>
        -- Saying once more that the session is meant to rest changes nothing.
        have same : s.setRunning false = s := by simp [setRunning, ← running]
        simp only [access?, Steer.asks, running, Bool.false_eq_true, if_false, same,
          Option.some.injEq, Prod.mk.injEq] at made
        obtain ⟨rfl, rfl, rfl⟩ := made
        exact .skip running
  | claimed =>
    simp only [access?, Option.some.injEq, Prod.mk.injEq] at made
    obtain ⟨rfl, rfl, rfl⟩ := made
    exact .move
  | moved =>
    obtain ⟨drawn, asked⟩ := asked_submit s steer.task
    simp only [access?, Option.some.injEq, Prod.mk.injEq] at made
    obtain ⟨rfl, rfl, rfl⟩ := made
    rw [drawn]
    exact .submit asked
  | returned ticket => cases made

/-- The engine has no part in what a call does. -/
theorem Step.engine {k : Caller} {s t : Session σ} {access : Access} {stage : Stage}
    (step : k.Step s access stage t) : t.engine = s.engine ∧ t.exchange = s.exchange := by
  cases step with
  | submit asked => exact asked.engine
  | _ => exact ⟨rfl, rfl⟩

end Caller

/-! ## What can happen to a crowd -/

theorem asked_obey {s : Session σ} {o : Order} (steady : o.steers true = false)
    (present : s.tornDown = false) : ∃ task, task.steering? = none ∧ s.Asked task (s.obey c o) := by
  cases o with
  | request op =>
    simp only [obey, present, Bool.false_eq_true, if_false]
    cases op with
    | publish topic payload qos retain => exact ⟨_, rfl, (asked_submit ..).2⟩
    | subscribe filters qos => exact ⟨_, rfl, (asked_submit ..).2⟩
    | unsubscribe filter => exact ⟨_, rfl, (asked_submit ..).2⟩
    | _ => cases steady
  | mark =>
    simp only [obey, present, Bool.false_eq_true, if_false]
    exact ⟨_, rfl, asked_mark s⟩
  | letGo => cases steady

namespace Crowd

variable {w v : Crowd σ}

/-- Everything that can happen to a crowd whose session is there and is steered by its callers alone. -/
inductive Step (e : Engine σ) (c : Config) (w : Crowd σ) : Move σ → Crowd σ → Prop
  | access {i : Nat} {k : Caller} {access : Access} {stage : Stage} {t : Session σ}
      (calling : w.callers[i]? = some k) (step : k.Step w.session access stage t) :
      Step e c w (.access i) ⟨t, w.callers.set i { k with stage }, w.log ++ [(i, access)]⟩
  /-- Somebody hands in a task that does not steer the session. -/
  | ask {o : Order} {task : Task} {t : Session σ} (apart : task.steering? = none)
      (asked : w.session.Asked task t) : Step e c w (.session (.order o)) { w with session := t }
  | work {t : Session σ} (step : WorkerStep e w.session t) :
      Step e c w (.session .work) { w with session := t }
  | crash : Step e c w (.session .crash) { w with session := w.session.crash e }
  /-- Something else happens, to the engine, the phase or the journal. -/
  | aside {m : Session.Move σ} {engine : σ} {phase : Phase} {directory : Directory Listener}
      {journal : List Entry} {clock : Nat} (aside : m.isAside = true)
      (made : w.session.move? e c m = some { w.session with
        engine, directory, journal, clock, standing := { w.session.standing with phase } }) :
      Step e c w (.session m) { w with session := { w.session with
        engine, directory, journal, clock, standing := { w.session.standing with phase } } }

theorem step_of_move? {m : Move σ} (present : w.session.tornDown = false)
    (undirected : ∀ m', m = .session m' → m'.steers true = false) (made : w.move? e c m = some v) :
    w.Step e c m v := by
  cases m with
  | access i =>
    obtain ⟨k, calling, accessed⟩ := Option.bind_eq_some_iff.mp made
    obtain ⟨⟨access, stage, t⟩, next, rfl⟩ := Option.map_eq_some_iff.mp accessed
    exact .access calling (Caller.step_of_access? next)
  | session m =>
    obtain ⟨t, moved, rfl⟩ := Option.map_eq_some_iff.mp made
    cases m with
    | order o =>
      obtain ⟨task, apart, asked⟩ := asked_obey (c := c) (undirected _ rfl) present
      obtain rfl := Option.some.inj moved
      exact .ask apart asked
    | work => exact .work (workerStep_of_workerStep? moved)
    | crash =>
      obtain ⟨-, rfl⟩ := eq_of_crash moved
      exact .crash
    | close => simp [Session.move?, present] at moved
    | deliver =>
      obtain ⟨-, engine, phase, journal, -, rfl⟩ := loopStep?_frame moved
      exact .aside rfl moved
    | pass millis | outside f | clearDirectory =>
      obtain rfl := Option.some.inj moved
      exact .aside rfl rfl

theorem Step.tornDown {m : Move σ} (step : w.Step e c m v) :
    v.session.tornDown = w.session.tornDown := by
  cases step with
  | access calling step =>
    cases step with
    | submit asked => exact asked.standing.2
    | _ => rfl
  | ask apart asked => exact asked.standing.2
  | work step => cases step <;> rfl
  | crash => rw [crash_frame]
  | aside => rfl

/-- What every step of a crowd keeps is kept by a run in which its callers alone steer the session. -/
theorem after_induction {P : Crowd σ → Prop} {ms : List (Move σ)} (start : P w)
    (present : w.session.tornDown = false) (undirected : Undirected ms)
    (step : ∀ w v, ∀ m ∈ ms, P w → w.Step e c m v → P v) : P (w.after e c ms) := by
  induction ms generalizing w with
  | nil => exact start
  | cons m ms ih =>
    have rest : Undirected ms := fun m' among => undirected m' (List.mem_cons_of_mem _ among)
    have later : ∀ w v, ∀ m ∈ ms, P w → w.Step e c m v → P v :=
      fun w v n among => step w v n (List.mem_cons_of_mem _ among)
    rw [after, List.foldl_cons]
    cases made : w.move? e c m with
    | none =>
      -- A move that cannot be made is passed over.
      rw [show w.move e c m = w by rw [move, made]; rfl]
      exact ih start present rest later
    | some v =>
      rw [show w.move e c m = v by rw [move, made]; rfl]
      have happens : w.Step e c m v :=
        step_of_move? present (fun m' same => undirected m' (same ▸ List.mem_cons_self)) made
      exact ih (step w v m List.mem_cons_self start happens) (happens.tornDown.trans present) rest later

/-! ## A call that nobody interrupts -/

theorem move_access {i : Nat} {k : Caller} {access : Access} {stage : Stage} {t : Session σ}
    (calling : w.callers[i]? = some k) (next : k.access? w.session = some (access, stage, t)) :
    w.move e c (.access i) = ⟨t, w.callers.set i { k with stage }, w.log ++ [(i, access)]⟩ := by
  simp [move, move?, calling, next]

theorem move_returned {i : Nat} {steer : Steer} {ticket : Ticket}
    (calling : w.callers[i]? = some ⟨steer, .returned ticket⟩) : w.move e c (.access i) = w := by
  simp [move, move?, calling, Caller.access?]

/-- A call that nobody interrupts is the operation of the session. -/
theorem after_alone {i : Nat} {steer : Steer} (calling : w.callers[i]? = some ⟨steer, .entered⟩) :
    let v := w.after e c [.access i, .access i, .access i]
    v.session = (steer.operation.run c w.session).2 ∧
      v.callers = w.callers.set i ⟨steer, .returned (steer.operation.run c w.session).1⟩ := by
  intro v
  have placed (k : Caller) : (w.callers.set i k)[i]? = some k := by
    obtain ⟨inside, -⟩ := List.getElem?_eq_some_iff.mp calling
    exact List.getElem?_set_self inside
  -- The three accesses of a call that goes on, one after another.
  have full (claim : Access) (s : Session σ)
      (first : Caller.access? ⟨steer, .entered⟩ w.session = some (claim, .claimed, s)) :
      v.session = ((s.setPhase steer.phase).submit steer.task).2 ∧
        v.callers =
          w.callers.set i ⟨steer, .returned ((s.setPhase steer.phase).submit steer.task).1⟩ := by
    have second (log : List (Nat × Access)) := move_access (e := e) (c := c)
      (w := ⟨s, w.callers.set i ⟨steer, .claimed⟩, log⟩) (placed _) rfl
    have third (log : List (Nat × Access)) := move_access (e := e) (c := c)
      (w := ⟨s.setPhase steer.phase, w.callers.set i ⟨steer, .moved⟩, log⟩) (placed _) rfl
    simp only [v, after, List.foldl_cons, List.foldl_nil]
    rw [move_access calling first, second, List.set_set, third, List.set_set]
    exact ⟨rfl, rfl⟩
  cases steer with
  | connect host port keepAlive => exact full _ _ rfl
  | reconnect => exact full _ _ rfl
  | disconnect =>
    cases running : w.session.standing.running with
    | true =>
      have whole := full (.swapRunning true) (w.session.setRunning false)
        (by simp [Caller.access?, Steer.asks, running])
      simpa [Steer.operation, Operation.run, disconnect, endConnection, running, Steer.phase,
        Steer.task] using whole
    | false =>
      have same : w.session.setRunning false = w.session := by simp [setRunning, ← running]
      have skipped : Caller.access? ⟨.disconnect, .entered⟩ w.session =
          some (.swapRunning false, .returned w.session.nextTicket, (disconnect w.session).2) := by
        simp [Caller.access?, Steer.asks, running, same, disconnect, endConnection, draw]
      -- The call is over after one access, and the other two moves are passed over.
      have ended (log : List (Nat × Access)) := move_returned (e := e) (c := c)
        (w := ⟨w.session.disconnect.2, _, log⟩) (placed ⟨.disconnect, .returned w.session.nextTicket⟩)
      simp only [v, after, List.foldl_cons, List.foldl_nil]
      rw [move_access calling skipped, ended, ended]
      simp [Steer.operation, Operation.run, disconnect, endConnection, running, draw]

/-! ## Leaving out the record of the engine -/

/-- A move over an engine, as a move over the engine with its record. -/
def Move.recorded : Move σ → Move (Recorded σ)
  | access i => .access i
  | session m => .session m.recorded

theorem Move.exists_of_recorded {m : Move σ} {m' : Session.Move (Recorded σ)}
    (same : m.recorded = .session m') : ∃ n, m = .session n ∧ m' = n.recorded := by
  cases m with
  | access i => cases same
  | session n => exact ⟨n, rfl, (Move.session.inj same).symm⟩

theorem Move.eq_crash_of_recorded {m : Move σ} (same : m.recorded = .session .crash) :
    m = .session .crash := by
  obtain ⟨n, rfl, crash⟩ := exists_of_recorded same
  cases n <;> first | rfl | cases crash

/-- The crowd without the record of the engine. -/
def plain (w : Crowd (Recorded σ)) : Crowd σ := ⟨w.session.plain, w.callers, w.log⟩

end Crowd

theorem Caller.plain_access? (k : Caller) (s : Session (Recorded σ)) :
    (k.access? s).map (fun (access, stage, t) => (access, stage, t.plain)) = k.access? s.plain := by
  obtain ⟨steer, stage⟩ := k
  cases stage with
  | entered =>
    simp only [access?]
    rw [show s.plain.standing = s.standing from rfl]
    split
    · rfl
    · split <;> rfl
  | claimed => rfl
  | moved =>
    have kept : (s.submit steer.task).2.engine = s.engine := by
      obtain ⟨-, asked⟩ := asked_submit s steer.task
      generalize (s.submit steer.task).2 = t at asked
      cases asked <;> rfl
    have same : (s.submit steer.task).2.plain = (s.plain.submit steer.task).2 := by
      rw [plain, kept]
      exact (withEngine_submit s s.engine.inner steer.task).symm
    simp only [access?, Option.map_some, same, (asked_submit s steer.task).1,
      (asked_submit s.plain steer.task).1]
    rfl
  | returned ticket => rfl

namespace Crowd

variable {w v : Crowd (Recorded σ)}

theorem plain_move? (m : Move σ) :
    (w.move? e.recorded c m.recorded).map plain = w.plain.move? e c m := by
  cases m with
  | access i =>
    simp only [Move.recorded, move?]
    rw [show w.plain.callers = w.callers from rfl, show w.plain.session = w.session.plain from rfl]
    cases w.callers[i]? with
    | none => rfl
    | some k =>
      simp only [Option.bind_some, ← Caller.plain_access?, Option.map_map]
      rfl
  | session m =>
    simp only [Move.recorded, move?]
    rw [show w.plain.session = w.session.plain from rfl, ← Session.plain_move?, Option.map_map,
      Option.map_map]
    rfl

/-- Leaving the record out of a run is the run without it. -/
theorem plain_after (ms : List (Move σ)) :
    (w.after e.recorded c (ms.map Move.recorded)).plain = w.plain.after e c ms := by
  induction ms generalizing w with
  | nil => rfl
  | cons m ms ih =>
    have moved : (w.move e.recorded c m.recorded).plain = w.plain.move e c m := by
      unfold move
      rw [← plain_move?]
      cases w.move? e.recorded c m.recorded <;> rfl
    have later := ih (w := w.move e.recorded c m.recorded)
    rw [moved] at later
    exact later

/-- What every step of a crowd over an engine with its record keeps is kept by a run. -/
theorem recorded_induction {P : Crowd (Recorded σ) → Prop} {ms : List (Move σ)} (start : P w)
    (present : w.session.tornDown = false) (undirected : Undirected ms)
    (step : ∀ w v, ∀ m ∈ ms, P w → w.Step e.recorded c m.recorded v → P v) :
    P (w.after e.recorded c (ms.map Move.recorded)) := by
  refine after_induction start present (fun m among => ?_) fun w v m among => ?_
  · obtain ⟨n, given, same⟩ := List.mem_map.mp among
    cases n with
    | access i => cases same
    | session n =>
      cases same
      have steady := undirected n given
      cases n <;> exact steady
  · obtain ⟨n, given, rfl⟩ := List.mem_map.mp among
    exact step w v n given

end Crowd

end Session

end BrokerSession
