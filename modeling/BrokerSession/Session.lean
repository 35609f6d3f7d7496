import BrokerSession.Directory
import BrokerSession.Schedule
import BrokerSession.Session.Journal
import BrokerSession.Session.Task
import BrokerSession.WorkQueue

/-!
# A session

A session owns an engine and a worker. Every operation is handed to the worker as a task and leaves a ticket
behind; the worker gives the commands of one task after another to the engine. Beside the worker the engine's
event loop runs and reports to the session through the directory of live sessions.

Three parties act on a session: its owner, through operations; its worker, through `workerStep?`; and the event
loop, through `loopStep?`. Each of their actions is one step from one state to the next.

## Main definitions

* `Session` - the state of a session with its engine, its worker and the directory
* `Session.establish` - a session for a configuration
* `Session.connect`, `Session.reconnect`, `Session.disconnect`, `Session.publish`, `Session.subscribe`,
  `Session.unsubscribe`, `Session.mark` - the operations
* `Session.tearDown`, `Session.drain` - the end of a session
* `Session.workerStep?`, `Session.loopStep?`, `Session.crash` - what happens by itself
* `Session.process` - the session under a clock
-/

namespace BrokerSession

/-- A command that the engine has heard and not answered. -/
structure Exchange where
  job : Job
  command : Command
  /-- The answer to an earlier command of the same task, which is the answer to the task. -/
  earlier : Option Status
  /-- When the engine is ready to answer, in milliseconds. -/
  due : Nat
  deriving DecidableEq

/-- The state of a session with its engine, its worker and the directory of live sessions. -/
structure Session (σ : Type) where
  clientId : String
  key : SessionKey
  standing : Standing
  engine : σ
  queue : WorkQueue Job
  exchange : Option Exchange
  directory : Directory Listener
  journal : List Entry
  resolved : List (Ticket × Resolution)
  nextTicket : Ticket
  tornDown : Bool
  /-- The time in milliseconds. -/
  clock : Nat

namespace Session

variable {σ : Type}

/-! ## The smallest changes -/

/-- Adds a line to the journal. -/
def note (s : Session σ) (e : Entry) : Session σ := { s with journal := s.journal ++ [e] }

/-- Adds a warning to the journal. -/
def warn (s : Session σ) (w : Warning) (status : Option Status) : Session σ :=
  s.note (.warning w status)

/-- Says whether the session is meant to run. -/
def setRunning (s : Session σ) (running : Bool) : Session σ :=
  { s with standing := { s.standing with running } }

/-- Moves the session to a phase. -/
def setPhase (s : Session σ) (phase : Phase) : Session σ :=
  { s with standing := { s.standing with phase } }

/-- Settles a ticket. -/
def resolve (s : Session σ) (ticket : Option Ticket) (r : Resolution) : Session σ :=
  { s with resolved := s.resolved ++ (ticket.map (·, r)).toList }

/-- Hands out a ticket. -/
def draw (s : Session σ) : Ticket × Session σ :=
  (s.nextTicket, { s with nextTicket := s.nextTicket + 1 })

/-- Takes the session out of the directory. -/
def unregister (s : Session σ) : Session σ :=
  { s with directory := (s.directory.unregister s.key).2 }

/-- What became of a ticket, if it is settled. -/
def resolution? (s : Session σ) (t : Ticket) : Option Resolution := s.resolved.lookup t

/-- Hands a job to the worker; `none` when it is refused. -/
def enqueue? (s : Session σ) (job : Job) : Option (Session σ) :=
  (s.queue.enqueue? job).map fun queue => { s with queue }

/-! ## Operations -/

/-- Hands a task to the worker. When it is refused the ticket is settled at once. -/
def submit (s : Session σ) (task : Task) : Ticket × Session σ :=
  let (t, s) := s.draw
  match s.enqueue? ⟨some t, task⟩ with
  | some s => (t, s)
  | none => (t, (s.resolve (some t) .closed).warn (.commandNotQueued .queueClosed) none)

/-- Asks for a connection; from now on the session is meant to run. -/
def start (s : Session σ) (task : Task) : Ticket × Session σ :=
  ((s.setRunning true).setPhase .connecting).submit task

/-- Connects to a broker. -/
def connect (s : Session σ) (host : String) (port keepAliveSecs : UInt16) : Ticket × Session σ :=
  s.start (.connect host port keepAliveSecs)

/-- Connects to the last broker again. -/
def reconnect (s : Session σ) : Ticket × Session σ := s.start .reconnect

/-- Disconnects. On a session that is not meant to run there is nothing to do, and that succeeds at once. -/
def endConnection (s : Session σ) (teardown : Bool) : Ticket × Session σ :=
  if s.standing.running then
    ((s.setRunning false).setPhase .disconnecting).submit (.disconnect teardown)
  else
    let (t, s) := s.draw
    (t, s.resolve (some t) (.answered (.ofStatus .success)))

/-- Disconnects, for an owner who may await the outcome. -/
def disconnect (s : Session σ) : Ticket × Session σ := s.endConnection false

/-- Publishes a message. -/
def publish (s : Session σ) (topic : String) (payload : ByteArray) (qos : Qos) (retain : Bool) :
    Ticket × Session σ :=
  s.submit (.publish topic payload qos retain)

/-- Subscribes to filters. -/
def subscribe (s : Session σ) (filters : List String) (qos : Qos) : Ticket × Session σ :=
  s.submit (.subscribe filters qos)

/-- Ends the subscription to a filter. -/
def unsubscribe (s : Session σ) (filter : String) : Ticket × Session σ :=
  s.submit (.unsubscribe filter)

/-- Marks a place in the queue: the ticket is settled once everything before it is done. -/
def mark (s : Session σ) : Ticket × Session σ :=
  let (t, s) := s.draw
  match s.enqueue? ⟨some t, .mark⟩ with
  | some s => (t, s)
  | none => (t, s.resolve (some t) .closed)

/-- Disconnects, if the session is meant to run, and lets the engine go after everything that waits. Only the
first teardown does anything. -/
def tearDown (s : Session σ) : Session σ :=
  if s.tornDown then s
  else
    let s := { s with tornDown := true }
    let s := if s.standing.running then (s.endConnection true).2 else s
    match s.enqueue? ⟨none, .destroy⟩ with
    | some s => s
    | none => (s.warn (.teardownNotQueued .queueClosed) none).unregister

/-- Closes the queue: its worker ends once nothing is left. -/
def closeQueue (s : Session σ) : Session σ := { s with queue := s.queue.close }

/-! ## The worker -/

/-- A command is given to the engine. -/
def say (e : Engine σ) (s : Session σ) (job : Job) (c : Command) (earlier : Option Status) :
    Session σ :=
  { s with
    engine := e.call s.engine s.clock c
    exchange := some ⟨job, c, earlier, s.clock + e.pause s.engine c⟩ }

/-- The task of a job is done. -/
def complete (s : Session σ) (job : Job) (r : Reply) : Session σ :=
  { s.resolve job.ticket (.answered r) with queue := s.queue.finish, exchange := none }

/-- The first command of a job, or its end. -/
def begin (e : Engine σ) (s : Session σ) (job : Job) : Session σ :=
  match job.task.opening with
  | .command c => s.say e job c none
  | .refused => s.complete job (.ofStatus .inval)
  | .nothing => s.complete job (.ofStatus .success)

/-- A connect that the engine refused. Only a session that still waits for it is moved. -/
def connectRefused (s : Session σ) (status : Status) : Session σ :=
  let s := s.warn .connectRefused (some status)
  if s.standing.phase = .connecting then s.setPhase .disconnected else s

/-- The event loop has stopped, or has not. A connect that was asked for since owns the phase. -/
def loopStopped (s : Session σ) (status : Status) : Session σ :=
  let s := if status.isSuccess then s else s.warn .loopNotStopped (some status)
  if s.standing.running then s else s.setPhase .disconnected

/-- A warning about a disconnect that nobody awaits. -/
def disconnectAnswered (s : Session σ) (job : Job) (status : Status) : Session σ :=
  if job.task = .disconnect true ∧ !status.isSuccess then
    s.warn .teardownDisconnectFailed (some status)
  else s

/-- The next command of a job, or its end, after the engine has answered. -/
def proceed (e : Engine σ) (s : Session σ) (x : Exchange) (r : Reply) : Session σ :=
  match x.command with
  | .connect .. | .reconnect =>
    if r.status.isSuccess then s.say e x.job .startLoop none
    else (s.connectRefused r.status).complete x.job (.ofStatus r.status)
  | .startLoop => s.complete x.job (.ofStatus r.status)
  | .disconnect => (s.disconnectAnswered x.job r.status).say e x.job .stopLoop (some r.status)
  | .stopLoop => (s.loopStopped r.status).complete x.job (.ofStatus (x.earlier.getD r.status))
  | .destroy => s.unregister.complete x.job r
  | .publish .. | .subscribe .. | .unsubscribe _ => s.complete x.job r

/-- The next step of the worker: the engine answers, a job is begun, or the worker ends and lets the engine
go. -/
def workerStep? (e : Engine σ) (s : Session σ) : Option (Session σ) :=
  match s.exchange with
  | some x =>
    if s.clock < x.due then none
    else (e.finish s.engine s.clock x.command).map fun (r, engine) => { s with engine }.proceed e x r
  | none =>
    match s.queue.start? with
    | some (job, queue) => some ({ s with queue }.begin e job)
    | none => s.queue.retire?.map fun queue => { s with queue, engine := e.release s.engine }

/-- The jobs that nobody will do any more when the worker crashes. -/
def abandoned (s : Session σ) : List Job := s.queue.active.toList ++ s.queue.backlog

/-- The job at work crashes, and takes the worker and the engine with it. -/
def crash (e : Engine σ) (s : Session σ) : Session σ :=
  let s' := s.abandoned.foldl (fun s job => s.resolve job.ticket .closed) s
  { s' with queue := s.queue.crash, exchange := none, engine := e.release s.engine }

/-! ## The event loop -/

/-- An event arrives under the key of the session; it concerns somebody only while the key is registered. -/
def hear (s : Session σ) (event : EngineEvent) : Session σ :=
  match s.directory.lookup? s.key with
  | none => s
  | some listener =>
    let (standing, notice) := listener.handle s.standing event
    { s with standing, journal := s.journal ++ (notice.map .notice).toList }

/-- Something comes out of the event loop. -/
def receive (s : Session σ) : Report → Session σ
  | .event e => s.hear e
  | .retrying attempt delay => s.note (.retrying attempt delay)

/-- The next step of the event loop. -/
def loopStep? (e : Engine σ) (s : Session σ) : Option (Session σ) :=
  (e.deliver s.engine s.clock).map fun (reports, engine) => reports.foldl receive { s with engine }

/-! ## Time -/

/-- The session under a clock. The worker goes as far as it can before the event loop goes on. -/
def process (e : Engine σ) : Process (Session σ) where
  step s := s.workerStep? e <|> s.loopStep? e
  wake? s :=
    let due := s.exchange.bind fun x => if s.clock < x.due then some x.due else none
    [due, e.wake? s.engine s.clock].reduceOption.min?
  now := clock
  tick time s := { s with clock := time }
  bound s := 10 * (s.queue.backlog.length + 2) + e.pending s.engine

/-- How long the owner waits for the worker to end, in milliseconds. -/
def drainLimit : Nat := 10000

/-- Closes the queue, and waits for the worker to end. -/
def drain (e : Engine σ) (s : Session σ) : Session σ :=
  let ended (s : Session σ) : Bool := s.queue.worker != .alive
  match (process e).waitFor ended (some (s.clock + drainLimit)) s.closeQueue with
  | .met s => if s.queue.worker = .crashed then s.warn .workerFailed none else s
  | .expired s => s.warn .drainTimeout none
  | .stuck s => s

/-! ## The beginning of a session -/

/-- A session for a configuration: the configuration is checked and given to the engine, and the session enters
the directory. Without something to run a worker on there is no session. What was done to the engine comes
back also when there is none. -/
def establish (e : Engine σ) (hosted : Bool) (fs : Files) (env : Environment) (c : Config)
    (clientId : String) (wanted : List Notice.Kind) (directory : Directory Listener) (engine : σ) :
    Except SessionError (Session σ) × σ :=
  if !hosted then (.error .noRuntime, engine)
  else
    match c.stage e.set fs env clientId engine with
    | (.error error, engine) => (.error (.config error), engine)
    | (.ok (), engine) =>
      let listener : Listener := ⟨clientId, wanted, c.retry.isEnabled⟩
      let (key, directory) := directory.register listener
      let engine := e.attach engine
      (.ok {
        clientId
        key
        standing := default
        engine
        queue := .fresh
        exchange := none
        directory
        journal := []
        resolved := []
        nextTicket := 0
        tornDown := false
        clock := 0 }, engine)

end Session

end BrokerSession
