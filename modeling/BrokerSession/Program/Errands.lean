import BrokerSession.CommandLine
import BrokerSession.Network
import BrokerSession.Program.Records
import BrokerSession.Program.Transcript
import BrokerSession.Session

/-!
# Errands that need a session

To publish or to subscribe, a run makes a session, connects, and waits until the broker accepts the connection.
A publisher then waits for the acknowledgement of its message. A subscriber prints messages until there are as
many as were asked for.

## Main definitions

* `Surroundings` - what a run has to work with
* `Program.receive` - the messages that are printed, of those that come in
* `Surroundings.runErrand` - a run with such an errand
-/

namespace BrokerSession

namespace Program

/-- How long the broker may take to accept a connection, or to acknowledge a message, in milliseconds. -/
def patience : Nat := 10000

/-- What ends a run before its time. -/
inductive Failure where
  | session (e : SessionError)
  | refused (operation : String) (status : Status)
  | noBroker
  deriving DecidableEq, Repr

/-- The text of a failure. -/
def Failure.message : Failure → String
  | session e => e.message
  | refused operation status => operation ++ " failed: " ++ status.message
  | noBroker => "timed out waiting for the broker"

/-- The messages that are printed, of those that come in: the limit is looked at after each of them. -/
def receive (limit : Option Nat) (received : Nat) : List Message → List Message
  | [] => []
  | m :: rest => if limit.any (· ≤ received + 1) then [m] else m :: receive limit (received + 1) rest

/-- How a message is printed. -/
def messageLine (m : Message) : String := m.topic ++ " " ++ m.payloadDisplay

/-- The messages in a journal. -/
def messages (journal : List Entry) : List Message :=
  journal.filterMap fun
    | .notice (.message m) => some m
    | _ => none

end Program

/-- What a run has to work with. -/
structure Surroundings where
  files : Files
  env : Environment
  network : Network
  /-- Digits that no other session has. -/
  digits : String

namespace Surroundings

open Program

/-- The engine of a run. -/
def engine (w : Surroundings) : Engine NetworkEngine := NetworkEngine.engine w.files w.network

/-- The session of a run under its clock. -/
def process (w : Surroundings) : Process (Session NetworkEngine) := Session.process w.engine

/-- The state of a session together with what came of an operation on it. -/
abbrev Attempt (α : Type) := Except Failure α × Session NetworkEngine

/-- The reply to an operation, once there is one. -/
def await (w : Surroundings) (operation : String) (step : Ticket × Session NetworkEngine) :
    Attempt Reply :=
  let (t, s) := step
  let s := (w.process.waitFor (fun s => (s.resolution? t).isSome) none s).state
  match s.resolution? t with
  | some (.answered r) => if r.isSuccess then (.ok r, s) else (.error (.refused operation r.status), s)
  | _ => (.error (.session .queueClosed), s)

/-- Waits until the broker has accepted the connection. -/
def awaitBroker (w : Surroundings) (s : Session NetworkEngine) : Attempt Unit :=
  let waited := w.process.waitFor (·.standing.isConnected) (some (s.clock + patience)) s
  (if waited.isMet then .ok () else .error .noBroker, waited.state)

/-- Publishes a message, and waits until it is acknowledged. What comes back is the number of the message, and
whether it was acknowledged. -/
def publish (w : Surroundings) (topic message : String) (qos : Qos) (retain : Bool)
    (s : Session NetworkEngine) : Attempt (MessageId × Bool) :=
  match w.await "publish" (s.publish topic message.toUTF8 qos retain) with
  | (.error e, s) => (.error e, s)
  | (.ok r, s) =>
    let acknowledged (s : Session NetworkEngine) : Bool := s.journal.contains (.notice (.published r.id))
    let waited := w.process.waitFor acknowledged (some (s.clock + patience)) s
    (.ok (r.id, waited.isMet), waited.state)

/-- Subscribes, and waits until there are as many messages as were asked for. -/
def subscribe (w : Surroundings) (filters : List String) (qos : Qos) (count : Option Nat)
    (s : Session NetworkEngine) : Attempt (List Message) :=
  match w.await "subscribe" (s.subscribe filters qos) with
  | (.error e, s) => (.error e, s)
  | (.ok _, s) =>
    let enough (s : Session NetworkEngine) : Bool :=
      count.any fun n => max n 1 ≤ (messages s.journal).length
    let s := (w.process.waitFor enough none s).state
    (.ok (receive count 0 (messages s.journal)), s)

/-- The kinds of notices that an errand needs. -/
def wanted : CommandLine.Errand → List Notice.Kind
  | .publish .. => [.publish]
  | .subscribe .. => [.message, .subscribe, .disconnect]
  | .check _ => []

/-- Does an errand on a connected session. -/
def perform (w : Surroundings) (errand : CommandLine.Errand) (s : Session NetworkEngine) :
    Attempt (List Utterance) :=
  match errand with
  | .publish topic message qos retain =>
    let (result, s) := w.publish topic message qos retain s
    (result.map fun (id, acknowledged) => (Records.published topic id acknowledged).map .logged, s)
  | .subscribe filters qos count =>
    let (result, s) := w.subscribe filters qos count s
    (result.map fun messages => messages.map fun m => .printed (messageLine m), s)
  | .check _ => (.ok [], s)

/-- What the journal of a session is in the log. -/
def told (errand : CommandLine.Errand) (s : Session NetworkEngine) : List Utterance :=
  let subscriber := match errand with
    | .subscribe .. => true
    | _ => false
  (s.journal.flatMap (Records.ofEntry subscriber)).map .logged

/-- The end of a run whose session exists. -/
def finish (w : Surroundings) (before : List Utterance) (errand : CommandLine.Errand)
    (attempt : Attempt (List Utterance)) : Nat × List Utterance :=
  let (result, s) := attempt
  let leaving := (Records.disconnecting s.clientId s.standing.phase).map Utterance.logged
  match result with
  | .error e => (1, before ++ told errand s ++ leaving ++ [.logged (Records.failed e.message)])
  | .ok done =>
    let s := s.tearDown.drain w.engine
    (0, before ++ told errand s ++ done ++ leaving ++ [.logged (Records.ended s.clientId)])

/-- A run that makes a session and does its errand: how it ends, and what it writes. -/
def runErrand (w : Surroundings) (spans : Bool) (c : Config) (errand : CommandLine.Errand) :
    Nat × List Utterance :=
  let clientId := c.effectiveClientId w.digits
  let (established, _) :=
    Session.establish w.engine true w.files w.env c clientId (wanted errand) .empty .fresh
  let making := (Records.making spans w.files c clientId (established.map (·.key))).map Utterance.logged
  match established with
  | .error e => (1, making ++ [.logged (Records.failed (Failure.session e).message)])
  | .ok s =>
    let before := making ++ (Records.connecting c clientId).map .logged
    match w.await "connect" (s.connect c.host c.port c.keepAliveSecs) with
    | (.error e, s) => w.finish before errand (.error e, s)
    | (.ok _, s) =>
      let before := before ++ [.logged (Records.prepared c)]
      match w.awaitBroker s with
      | (.error e, s) => w.finish before errand (.error e, s)
      | (.ok _, s) => w.finish before errand (w.perform errand s)

end Surroundings

end BrokerSession
