import BrokerSession.Loopback
import BrokerSession.Session

/-!
# Playing a script on a session

A script is a list of steps: operations of the owner of a session, things that the loopback engine is made to
do, and waiting. Each step has an answer, and what it left behind in the record of the engine and in the journal
can be read off afterwards.

## Main definitions

* `Operation` - what an owner asks for
* `Step`, `Answer` - the steps of a script and their answers
* `Player` - a session over the loopback engine, with the tickets that the script has given names
* `Player.play` - the effect of a step
-/

namespace BrokerSession

/-- What an owner asks for. -/
inductive Operation where
  | connect (host : String) (port keepAliveSecs : UInt16)
  /-- Connect to the broker of the configuration. -/
  | connectConfigured
  | reconnect
  | disconnect
  | publish (topic : String) (payload : ByteArray) (qos : Qos) (retain : Bool)
  | subscribe (filters : List String) (qos : Qos)
  | unsubscribe (filter : String)

/-- An operation on a session with a configuration. -/
def Operation.run {σ : Type} (c : Config) (s : Session σ) : Operation → Ticket × Session σ
  | connect host port keepAlive => s.connect host port keepAlive
  | connectConfigured => s.connect c.host c.port c.keepAliveSecs
  | reconnect => s.reconnect
  | disconnect => s.disconnect
  | publish topic payload qos retain => s.publish topic payload qos retain
  | subscribe filters qos => s.subscribe filters qos
  | unsubscribe filter => s.unsubscribe filter

/-- A step of a script. -/
inductive Step where
  /-- An operation whose outcome is awaited, or kept under a name for later. -/
  | request (op : Operation) (keep : Option String)
  | await (name : String)
  /-- Looks whether an outcome is there. -/
  | poll (name : String)
  /-- Gives up an outcome; the operation goes on. -/
  | forget (name : String)
  /-- Waits until everything asked for so far is done. -/
  | idle
  | waitForPhase (phase : Phase) (millis : Nat)
  | sleep (millis : Nat)
  | settle
  /-- The engine is made to report an event. -/
  | inject (e : EngineEvent)
  /-- The broker goes away. -/
  | dropConnection (code : Int)
  /-- How often a call is on record. -/
  | count (name : String)
  | clearCalls
  /-- Empties the directory of live sessions. -/
  | clearDirectory
  | shutdown
  /-- The owner lets the session go. -/
  | drop (settled : Bool)
  | skip

/-- The answer to a step. -/
inductive Answer where
  | outcome (r : Resolution)
  /-- What was waited for came true. -/
  | ok
  | timeout
  /-- The outcome is kept for later. -/
  | queued
  | pending
  /-- There is no outcome of that name. -/
  | unknown
  /-- The owner has let the session go. -/
  | gone
  | flag (b : Bool)
  | number (n : Nat)
  | nothing

/-- A session over the loopback engine, with the tickets that have names. -/
structure Player where
  config : Config
  session : Session Loopback
  names : List (String × Ticket)
  /-- Whether the owner still has the session. -/
  present : Bool

namespace Player

/-- The session under its clock. -/
def process : Process (Session Loopback) := Session.process Loopback.engine

/-- The player with a session put in place of its own. -/
def setSession (p : Player) (s : Session Loopback) : Player := { p with session := s }

/-- Everything that can happen now has happened. -/
def settled (p : Player) : Player := p.setSession (process.settle p.session)

/-- Waits for the outcome of a ticket. -/
def awaitTicket (p : Player) (t : Ticket) : Answer × Player :=
  let s := (process.waitFor (fun s => (s.resolution? t).isSome) none p.session).state
  (((s.resolution? t).map Answer.outcome).getD .pending, p.setSession s)

/-- Waits for an outcome and lets everything settle. -/
def finishTicket (p : Player) (t : Ticket) : Answer × Player :=
  let (a, p) := p.awaitTicket t
  (a, p.settled)

/-- The player without a name. -/
def unnamed (p : Player) (name : String) : Player :=
  { p with names := p.names.filter (·.1 != name) }

/-- The outcome of waiting for everything asked for so far. -/
def Answer.ofMark : Answer → Answer
  | .outcome (.answered _) => .ok
  | a => a

/-- A step that needs the owner to have the session. -/
def playPresent (p : Player) : Step → Answer × Player
  | .request op keep =>
    let (t, s) := op.run p.config p.session
    match keep with
    | some name => (.queued, { (p.unnamed name).setSession s with names := (name, t) :: (p.unnamed name).names })
    | none => (p.setSession s).finishTicket t
  | .idle =>
    let (t, s) := p.session.mark
    let (a, p) := (p.setSession s).finishTicket t
    (Answer.ofMark a, p)
  | .waitForPhase phase millis =>
    let reached (s : Session Loopback) : Bool := s.standing.phase == phase
    let deadline := p.session.clock + millis
    let waited := process.waitFor reached (some deadline) p.session
    (if waited.isMet then .ok else .timeout, (p.setSession waited.state).settled)
  | .shutdown =>
    let s := p.session.tearDown.drain Loopback.engine
    (.ok, { (p.setSession s).settled with present := false })
  | _ => (.nothing, p)

/-- Changes the engine, as if from outside. -/
def mapEngine (p : Player) (f : Loopback → Loopback) : Player :=
  p.setSession { p.session with engine := f p.session.engine }

/-- The answer to a step, and the player after it. -/
def play (p : Player) (step : Step) : Answer × Player :=
  match step with
  | .request .. | .idle | .waitForPhase .. | .shutdown =>
    if p.present then p.playPresent step else (.gone, p)
  | .await name =>
    match p.names.lookup name with
    | none => (.unknown, p.settled)
    | some t => (p.unnamed name).finishTicket t
  | .poll name =>
    match p.names.lookup name with
    | none => (.unknown, p.settled)
    | some t =>
      match p.session.resolution? t with
      | none => (.pending, p.settled)
      | some r => (.outcome r, (p.unnamed name).settled)
  | .forget name => (.flag (p.names.lookup name).isSome, p.unnamed name)
  | .sleep millis => (.nothing, (p.setSession (process.sleep millis p.session)).settled)
  | .settle | .skip => (.nothing, p.settled)
  | .inject e => (.nothing, (p.mapEngine (·.inject e)).settled)
  | .dropConnection code => (.nothing, (p.mapEngine (·.dropConnection code)).settled)
  | .count name =>
    (.number (p.session.engine.calls.countP (·.name == name)), p.settled)
  | .clearCalls => (.nothing, (p.mapEngine fun s => { s with calls := [] }).settled)
  | .clearDirectory =>
    let directory := p.session.directory.clear
    (.number directory.size, (p.setSession { p.session with directory }).settled)
  | .drop settled =>
    let s := if p.present then p.session.tearDown.closeQueue else p.session
    let p' := { p.setSession s with present := false }
    (.flag p.present, if settled then p'.settled else p')

end Player

end BrokerSession
