import BrokerSession.Proofs.Session.Moves
import Mathlib.Logic.Function.Basic

/-!
# What the worker and the event loop do

A step of the worker either takes a job from the queue, ends the worker, or carries an answer of the engine
further: another command of the same job follows, or the job is done. `WorkerStep` lists these cases with
everything that changes, so that what a step keeps is proved case by case and the step function is opened only
here. The event loop touches nothing of a session but the phase and the journal.

## Main definitions

* `Exchange.sequel` - what follows an answer of the engine
* `Exchange.standing`, `Exchange.remarks` - what an answer does to the session besides
* `Session.said` - the command that waits for its answer
* `Session.WorkerStep` - the steps of a worker
* `Exchange.Talk` - how far a job has come, given the answers of the engine to its commands
* `Session.Move.isAside` - whether a move is neither the owner's nor the worker's

## Main results

* `workerStep_of_workerStep?` - every step of a worker is one of `WorkerStep`
* `loopStep?_frame` - what a step of the event loop leaves as it is
* `move?_frame`, `owner_of_move?` - what a move leaves as it is that is neither the owner's nor the worker's
* `Exchange.Talk.say` - a job goes on after an answer
-/

namespace BrokerSession

/-- Whether a task asks for a connection. -/
def Task.connects : Task → Bool
  | connect .. => true
  | reconnect => true
  | _ => false

/-- Whether a task asks for the end of the connection. -/
def Task.disconnects : Task → Bool
  | disconnect _ => true
  | _ => false

/-- The answer to a task that the engine never hears of. -/
def Opening.dismissal? : Opening → Option Reply
  | command _ => none
  | refused => some (.ofStatus .inval)
  | nothing => some (.ofStatus .success)

/-- What follows an answer of the engine. -/
inductive Sequel where
  /-- Another command of the same job. -/
  | say (c : Command) (earlier : Option Status)
  /-- The job is done. -/
  | done (r : Reply)

namespace Exchange

/-- What follows an answer of the engine: a loop is started after a connect and stopped after a disconnect. -/
def sequel (x : Exchange) (r : Reply) : Sequel :=
  match x.command with
  | .connect .. | .reconnect =>
    if r.status.isSuccess then .say .startLoop none else .done (.ofStatus r.status)
  | .startLoop => .done (.ofStatus r.status)
  | .disconnect => .say .stopLoop (some r.status)
  | .stopLoop => .done (.ofStatus (x.earlier.getD r.status))
  | _ => .done r

/-- Where an answer of the engine leaves the session. -/
def standing (x : Exchange) (r : Reply) (s : Standing) : Standing :=
  match x.command with
  | .connect .. | .reconnect =>
    if r.status.isSuccess then s
    else if s.phase = .connecting then { s with phase := .disconnected } else s
  | .stopLoop => if s.running then s else { s with phase := .disconnected }
  | _ => s

/-- What the session warns about on hearing an answer. -/
def remarks (x : Exchange) (r : Reply) : List Entry :=
  match x.command with
  | .connect .. | .reconnect =>
    if r.status.isSuccess then [] else [.warning .connectRefused (some r.status)]
  | .disconnect =>
    if x.job.task = .disconnect true ∧ !r.status.isSuccess then
      [.warning .teardownDisconnectFailed (some r.status)]
    else []
  | .stopLoop => if r.status.isSuccess then [] else [.warning .loopNotStopped (some r.status)]
  | _ => []

@[simp] theorem standing_running (x : Exchange) (r : Reply) (s : Standing) :
    (x.standing r s).running = s.running := by
  unfold standing
  repeat' split
  all_goals rfl

end Exchange

namespace Session

variable {σ : Type} {e : Engine σ} {c : Config} {s t : Session σ}

/-! ## The steps of a worker -/

/-- The session after it has heard an answer of the engine, before anything follows. -/
def heed (s : Session σ) (x : Exchange) (r : Reply) : Session σ :=
  { s with
    standing := x.standing r s.standing
    journal := s.journal ++ x.remarks r
    directory := if x.command = .destroy then (s.directory.unregister s.key).2 else s.directory }

theorem directory_heed {x : Exchange} {r : Reply} (lasts : x.command ≠ .destroy) :
    (s.heed x r).directory = s.directory :=
  if_neg lasts

theorem proceed_eq (x : Exchange) (r : Reply) :
    s.proceed e x r =
      match x.sequel r with
      | .say cmd earlier => (s.heed x r).say e x.job cmd earlier
      | .done reply => (s.heed x r).complete x.job reply := by
  obtain ⟨job, cmd, earlier, due⟩ := x
  cases cmd with
  | connect | reconnect =>
    cases ok : r.status.isSuccess with
    | true => simp [proceed, Exchange.sequel, heed, Exchange.standing, Exchange.remarks, ok]
    | false =>
      by_cases waiting : s.standing.phase = .connecting <;>
        simp [proceed, Exchange.sequel, heed, Exchange.standing, Exchange.remarks, ok, connectRefused,
          warn, note, setPhase, waiting]
  | disconnect =>
    simp only [proceed, Exchange.sequel, heed, Exchange.standing, Exchange.remarks,
      disconnectAnswered, warn, note]
    split <;> simp
  | stopLoop =>
    simp only [proceed, Exchange.sequel, heed, Exchange.standing, Exchange.remarks, loopStopped, warn,
      note, setPhase]
    split <;> split <;> simp_all
  | destroy => simp [proceed, Exchange.sequel, heed, Exchange.standing, Exchange.remarks, unregister]
  | _ => simp [proceed, Exchange.sequel, heed, Exchange.standing, Exchange.remarks]

/-- The command that the engine has heard and not answered. -/
def said (s : Session σ) : Option Command := s.exchange.map (·.command)

theorem said_of_free (free : s.exchange = none) : s.said = none := by
  rw [said, free]
  rfl

theorem said_of_busy {x : Exchange} (busy : s.exchange = some x) : s.said = some x.command := by
  rw [said, busy]
  rfl

/-- The steps of a worker. -/
inductive WorkerStep (e : Engine σ) (s : Session σ) : Session σ → Prop
  /-- A job is done without a word to the engine. -/
  | dismiss {job : Job} {rest : List Job} {reply : Reply} (free : s.exchange = none)
      (alive : s.queue.worker = .alive) (waits : s.queue.backlog = job :: rest)
      (dismissed : job.task.opening.dismissal? = some reply) :
      WorkerStep e s
        ({ s with queue := { s.queue with backlog := rest, active := some job } }.complete job reply)
  /-- A job begins with a command. -/
  | begin {job : Job} {rest : List Job} {cmd : Command} (free : s.exchange = none)
      (alive : s.queue.worker = .alive) (waits : s.queue.backlog = job :: rest)
      (opens : job.task.opening = .command cmd) :
      WorkerStep e s
        ({ s with queue := { s.queue with backlog := rest, active := some job } }.say e job cmd none)
  /-- The worker finds the queue closed and empty, and lets the engine go. -/
  | retire (free : s.exchange = none) (alive : s.queue.worker = .alive) (empty : s.queue.backlog = [])
      (closed : s.queue.accepting = false) :
      WorkerStep e s
        { s with queue := { s.queue with worker := .ended }, engine := e.release s.engine }
  /-- The engine has answered, and another command follows. -/
  | goOn {x : Exchange} {r : Reply} {engine : σ} {cmd : Command} {earlier : Option Status}
      (busy : s.exchange = some x)
      (answered : e.finish s.engine s.clock x.command = some (r, engine))
      (follows : x.sequel r = .say cmd earlier) :
      WorkerStep e s (({ s with engine }.heed x r).say e x.job cmd earlier)
  /-- The engine has answered, and the job is done. -/
  | finish {x : Exchange} {r : Reply} {engine : σ} {reply : Reply} (busy : s.exchange = some x)
      (answered : e.finish s.engine s.clock x.command = some (r, engine))
      (follows : x.sequel r = .done reply) :
      WorkerStep e s (({ s with engine }.heed x r).complete x.job reply)

theorem WorkerStep.running (step : WorkerStep e s t) : t.standing.running = s.standing.running := by
  cases step <;> simp [say, complete, resolve, heed]

/-- Every step of a worker is one of these. -/
theorem workerStep_of_workerStep? (h : s.workerStep? e = some t) : WorkerStep e s t := by
  unfold workerStep? at h
  cases busy : s.exchange with
  | some x =>
    simp only [busy] at h
    -- Before the answer is due there is no step.
    split at h
    · cases h
    · obtain ⟨⟨r, engine⟩, answered, rfl⟩ := Option.map_eq_some_iff.mp h
      simp only [proceed_eq]
      cases follows : x.sequel r with
      | say cmd earlier => exact .goOn busy answered follows
      | done reply => exact .finish busy answered follows
  | none =>
    simp only [busy] at h
    cases started : s.queue.start? with
    | some taken =>
      obtain ⟨job, queue⟩ := taken
      obtain ⟨alive, -, rest, waits, rfl⟩ := WorkQueue.start?_eq_some_iff.mp started
      simp only [started, Option.some.injEq] at h
      subst h
      cases opens : job.task.opening with
      | command cmd =>
        simp only [Session.begin, opens]
        exact .begin busy alive waits opens
      | refused | nothing =>
        simp only [Session.begin, opens]
        exact .dismiss busy alive waits (by rw [opens]; rfl)
    | none =>
      simp only [started] at h
      obtain ⟨queue, retired, rfl⟩ := Option.map_eq_some_iff.mp h
      obtain ⟨alive, -, empty, closed, rfl⟩ := WorkQueue.retire?_eq_some_iff.mp retired
      have ended := WorkerStep.retire (e := e) busy alive empty closed
      rwa [busy] at ended

end Session

/-! ## How far a job has come -/

/-- How far the job of an exchange has come: the engine has answered the commands `before`, each as `a` says, and
has heard one command more. -/
inductive Exchange.Talk (a : Command → Reply) : Exchange → List Command → Prop
  | opening {job : Job} {cmd : Command} {due : Nat} (opens : job.task.opening = .command cmd) :
      Talk a ⟨job, cmd, none, due⟩ []
  | startLoop {job : Job} {cmd : Command} {due : Nat} (opens : job.task.opening = .command cmd)
      (connects : job.task.connects = true) (accepted : (a cmd).status.isSuccess = true) :
      Talk a ⟨job, .startLoop, none, due⟩ [cmd]
  | stopLoop {job : Job} {due : Nat} (disconnects : job.task.disconnects = true) :
      Talk a ⟨job, .stopLoop, some (a .disconnect).status, due⟩ [.disconnect]

theorem Task.opening_ne_loop {task : Task} {cmd : Command} (opens : task.opening = .command cmd) :
    cmd ≠ .startLoop ∧ cmd ≠ .stopLoop := by
  cases task <;> simp only [Task.opening] at opens <;> grind

/-- A command that is followed by another one opens a task that asks for a connection, or for its end. -/
theorem Exchange.sequel_opening {job : Job} {cmd next : Command} {earlier : Option Status} {due : Nat}
    {r : Reply} (opens : job.task.opening = .command cmd)
    (follows : sequel ⟨job, cmd, none, due⟩ r = .say next earlier) :
    job.task.connects = true ∧ r.status.isSuccess = true ∧ next = .startLoop ∧ earlier = none ∨
      job.task.disconnects = true ∧ cmd = .disconnect ∧ next = .stopLoop ∧
        earlier = some r.status := by
  obtain ⟨ticket, task⟩ := job
  cases task <;> simp only [Task.opening] at opens <;>
    grind [sequel, Task.connects, Task.disconnects]

theorem Exchange.Talk.command_notMem {a : Command → Reply} {x : Exchange} {before : List Command}
    (talk : x.Talk a before) : x.command ∉ before := by
  cases talk with
  | opening opens => exact List.not_mem_nil
  | startLoop opens _ _ =>
    intro again
    exact (Task.opening_ne_loop opens).1 (List.mem_singleton.mp again).symm
  | stopLoop _ => simp

/-- Another command of the job follows an answer. -/
theorem Exchange.Talk.say {a : Command → Reply} {x : Exchange} {before : List Command} {r : Reply}
    {cmd : Command} {earlier : Option Status} (talk : x.Talk a before)
    (follows : x.sequel r = .say cmd earlier) (due : Nat) :
    Talk (Function.update a x.command r) ⟨x.job, cmd, earlier, due⟩ (before ++ [x.command]) := by
  cases talk with
  | opening opens =>
    -- The answer that has just come is entered in `a` at a command that was not answered before.
    rcases sequel_opening opens follows with ⟨connects, accepted, rfl, rfl⟩ | ⟨ends, rfl, rfl, rfl⟩
    · exact .startLoop opens connects (by simpa using accepted)
    · have stop : Talk (Function.update a .disconnect r)
          ⟨_, .stopLoop, some (Function.update a .disconnect r .disconnect).status, due⟩
          [.disconnect] := .stopLoop ends
      simpa using stop
  | startLoop => cases follows
  | stopLoop => cases follows

theorem Exchange.Talk.next {a : Command → Reply} {x : Exchange} {before : List Command} {r : Reply}
    {cmd : Command} {earlier : Option Status} (talk : x.Talk a before)
    (follows : x.sequel r = .say cmd earlier) :
    x.job.task.opening = .command x.command ∧
      (x.job.task.connects = true ∧ r.status.isSuccess = true ∧ cmd = .startLoop ∨
        x.job.task.disconnects = true ∧ x.command = .disconnect ∧ cmd = .stopLoop) := by
  cases talk with
  | opening opens =>
    rcases sequel_opening opens follows with ⟨connects, accepted, rfl, -⟩ | ⟨ends, rfl, rfl, -⟩
    · exact ⟨opens, .inl ⟨connects, accepted, rfl⟩⟩
    · exact ⟨opens, .inr ⟨ends, rfl, rfl⟩⟩
  | startLoop => cases follows
  | stopLoop => cases follows

/-- The ways in which an answer can be the last one of a job. -/
theorem Exchange.Talk.last {a : Command → Reply} {x : Exchange} {before : List Command}
    {r reply : Reply} (talk : x.Talk a before) (follows : x.sequel r = .done reply) :
    x.job.task.connects = true ∧ x.command = .startLoop ∨
      x.job.task.connects = true ∧ x.job.task.opening = .command x.command ∧
        r.status.isSuccess = false ∨
      x.job.task.disconnects = true ∧ x.command = .stopLoop ∨
      x.job.task.connects = false ∧ x.job.task.disconnects = false ∧
        x.job.task.opening = .command x.command := by
  cases talk with
  | startLoop _ connects _ => exact .inl ⟨connects, rfl⟩
  | stopLoop ends => exact .inr (.inr (.inl ⟨ends, rfl⟩))
  | @opening job cmd due opens =>
    -- After an accepted connect and after a disconnect another command follows, so neither is the last.
    obtain ⟨ticket, task⟩ := job
    cases task <;> simp only [Task.opening] at opens <;>
      grind [sequel, Task.connects, Task.disconnects, Task.opening]

theorem Exchange.standing_of_message {x : Exchange} {r : Reply} {s : Standing}
    (opens : x.job.task.opening = .command x.command) (connects : x.job.task.connects = false)
    (ends : x.job.task.disconnects = false) : x.standing r s = s := by
  obtain ⟨⟨ticket, task⟩, cmd, earlier, due⟩ := x
  cases task <;> simp only [Task.opening] at opens <;>
    grind [standing, Task.connects, Task.disconnects]

theorem Task.connect_of_opening {task : Task} {cmd : Command} (opens : task.opening = .command cmd)
    (connects : task.connects = true) :
    cmd = .reconnect ∨ ∃ host port keepAlive, cmd = .connect host port keepAlive := by
  cases task with
  | connect host port keepAlive => exact .inr ⟨host, port, keepAlive, (Opening.command.inj opens).symm⟩
  | reconnect => exact .inl (Opening.command.inj opens).symm
  | _ => cases connects

/-- A task that has nothing to do with the connection, and does not let the engine go, opens with a command about
messages or subscriptions. -/
theorem Task.message_of_opening {task : Task} {cmd : Command} (opens : task.opening = .command cmd)
    (connects : task.connects = false) (ends : task.disconnects = false) (kept : task ≠ .destroy) :
    (∃ topic payload qos retain, cmd = .publish topic payload qos retain) ∨
      (∃ filters qos, cmd = .subscribe filters qos) ∨ ∃ filter, cmd = .unsubscribe filter := by
  cases task <;> simp only [Task.opening] at opens <;> grind [Task.connects, Task.disconnects]

theorem Task.links_of_dismissal? {task : Task} {r : Reply}
    (dismissed : task.opening.dismissal? = some r) :
    task.connects = false ∧ task.disconnects = false := by
  cases task <;> first | exact ⟨rfl, rfl⟩ | cases dismissed

/-- The engine hears that it is let go exactly when that is the task of the job at work. -/
theorem Exchange.Talk.command_eq_destroy_iff {a : Command → Reply} {x : Exchange} {before : List Command}
    (talk : x.Talk a before) : x.command = .destroy ↔ x.job.task = .destroy := by
  cases talk with
  | @opening job cmd due opens =>
    obtain ⟨ticket, task⟩ := job
    cases task <;> simp only [Task.opening] at opens <;> grind
  | @startLoop job cmd due opens connects accepted =>
    obtain ⟨ticket, task⟩ := job
    cases task <;> simp [Task.connects] at connects ⊢
  | @stopLoop job due disconnects =>
    obtain ⟨ticket, task⟩ := job
    cases task <;> simp [Task.disconnects] at disconnects ⊢

theorem Task.ne_destroy_of_dismissal? {task : Task} {r : Reply} (dismissed : task.opening.dismissal? = some r) :
    task ≠ .destroy := by
  rintro rfl
  cases dismissed

namespace Session

variable {σ : Type} {e : Engine σ} {c : Config} {s t : Session σ}

/-! ## The event loop, and what happens around a session -/

theorem receive_frame (report : Report) :
    ∃ phase journal, s.receive report =
      { s with standing := { s.standing with phase }, journal := s.journal ++ journal } := by
  cases report with
  | retrying attempt delay => exact ⟨s.standing.phase, [.retrying attempt delay], rfl⟩
  | event event =>
    simp only [receive, hear]
    cases s.directory.lookup? s.key with
    | none => exact ⟨s.standing.phase, [], by simp⟩
    | some listener =>
      have running := listener.advance_running s.standing event
      refine ⟨(listener.advance s.standing event).phase,
        ((listener.tell? event).map .notice).toList, ?_⟩
      simp only [Listener.handle, ← running]

theorem foldl_receive_frame (reports : List Report) (s : Session σ) :
    ∃ phase journal, reports.foldl receive s =
      { s with standing := { s.standing with phase }, journal := s.journal ++ journal } := by
  -- The session changes from report to report, so the induction is for all of them at once.
  induction reports generalizing s with
  | nil => exact ⟨s.standing.phase, [], by simp⟩
  | cons report reports ih =>
    obtain ⟨phase, journal, eq⟩ := receive_frame (s := s) report
    obtain ⟨phase', journal', eq'⟩ := ih (s.receive report)
    refine ⟨phase', journal ++ journal', ?_⟩
    rw [List.foldl_cons, eq', eq]
    simp

/-- A step of the event loop moves the engine, at most the phase, and adds to the journal. -/
theorem loopStep?_frame (h : s.loopStep? e = some t) :
    ∃ reports engine phase journal, e.deliver s.engine s.clock = some (reports, engine) ∧ t =
      { s with engine, standing := { s.standing with phase }, journal := s.journal ++ journal } := by
  obtain ⟨⟨reports, engine⟩, delivered, rfl⟩ := Option.map_eq_some_iff.mp h
  obtain ⟨phase, journal, eq⟩ := foldl_receive_frame reports { s with engine }
  exact ⟨reports, engine, phase, journal, delivered, eq⟩

/-- A crash settles what nobody will do any more, and lets the engine go. -/
theorem crash_frame (s : Session σ) :
    s.crash e = { s with
      resolved := s.resolved ++ s.abandoned.filterMap fun job => job.ticket.map (·, .closed)
      queue := s.queue.crash
      exchange := none
      engine := e.release s.engine } := by
  have closed (jobs : List Job) (u : Session σ) :
      jobs.foldl (fun u job => u.resolve job.ticket .closed) u =
        { u with resolved := u.resolved ++
                   jobs.filterMap fun job => job.ticket.map (·, Resolution.closed) } := by
    -- The session changes from job to job, so the induction is for all of them at once.
    induction jobs generalizing u with
    | nil => simp
    | cons job jobs ih =>
      rw [List.foldl_cons, ih]
      cases ticket : job.ticket <;> simp [resolve, ticket]
  unfold crash
  rw [closed]

/-- Whether a move is neither the owner's nor the worker's. -/
def Move.isAside : Move σ → Bool
  | order _ | work | crash => false
  | _ => true

/-- A move that is neither the owner's nor the worker's touches none of the jobs, of the tickets and of what the
owner wants. -/
theorem move?_frame {m : Move σ} (made : s.move? e c m = some t) (aside : m.isAside = true) :
    ∃ engine phase accepting directory journal clock, t =
      { s with engine, directory, journal, clock, standing := { s.standing with phase },
               queue := { s.queue with accepting } } := by
  cases m with
  | close =>
    obtain ⟨-, rfl⟩ := eq_of_close made
    exact ⟨_, _, _, _, _, _, rfl⟩
  | deliver =>
    obtain ⟨-, engine, phase, journal, -, rfl⟩ := loopStep?_frame made
    exact ⟨_, _, _, _, _, _, rfl⟩
  | pass millis | outside f | clearDirectory =>
    obtain rfl := Option.some.inj made
    exact ⟨_, _, _, _, _, _, rfl⟩
  | order o | work | crash => cases aside

/-- Nothing but an order lets a session go, or says whether it is meant to run. -/
theorem owner_of_move? {m : Move σ} (sound : m ≠ .crash) (other : ∀ o, m ≠ .order o)
    (made : s.move? e c m = some t) :
    t.tornDown = s.tornDown ∧ t.standing.running = s.standing.running := by
  cases m with
  | order o => exact absurd rfl (other o)
  | work =>
    have step := workerStep_of_workerStep? made
    exact ⟨by cases step <;> rfl, step.running⟩
  | crash => exact absurd rfl sound
  | _ =>
    obtain ⟨_, _, _, _, _, _, rfl⟩ := move?_frame made rfl
    exact ⟨rfl, rfl⟩

end Session

end BrokerSession
