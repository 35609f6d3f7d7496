import BrokerSession.Engine
import BrokerSession.Topic.Matching

/-!
# An engine that talks to itself

The loopback engine plays a small broker: it accepts connects, acknowledges publishes and routes them back to
matching subscriptions. It keeps a record of every call, can be made to refuse calls or to take its time, and
hands its events out through an event loop, like an engine with a network would.

Events wait in a mailbox. A running loop takes them out one by one, and ends when it comes to a stop marker;
what stands behind the marker waits for the next loop.

Whoever is told about an event is taken not to panic. So a loop of this engine never breaks down with its mailbox, as
one of the network engine may: it ends at a stop marker, and the engine gets the mailbox back.

## Main definitions

* `Loopback` - the state of the engine
* `Loopback.Call` - a recorded call
* `Loopback.engine` - the behaviour of the engine
* `Loopback.inject`, `Loopback.dropConnection` - what a test does to it
-/

namespace BrokerSession

namespace Loopback

/-- A recorded call. -/
inductive Call where
  | set (x : Setting)
  | command (c : Command)
  deriving DecidableEq

/-- The name of an option's call. -/
def settingName : Setup → String
  | .identity => "set_identity"
  | .reconnect => "set_reconnect_policy"
  | .will => "set_will"
  | .credentials => "set_credentials"
  | .publish => "set_publish_tuning"
  | .tlsBundle => "set_tls_bundle"
  | .tls => "set_tls_options"
  | .psk => "set_psk"

/-- The name of a command's call. -/
def commandName : Command → String
  | .connect .. => "connect"
  | .reconnect => "reconnect"
  | .disconnect => "disconnect"
  | .publish .. => "publish"
  | .subscribe .. => "subscribe"
  | .unsubscribe _ => "unsubscribe"
  | .startLoop => "start_loop"
  | .stopLoop => "stop_loop"
  | .destroy => "destroy"

/-- The name of a call. -/
def Call.name : Call → String
  | set x => settingName x.option
  | command c => commandName c

/-- What the mailbox holds. -/
inductive Mail where
  | event (e : EngineEvent)
  /-- Ends the loop that comes to it. -/
  | stop
  deriving DecidableEq

/-- Where the receiving end of the mailbox is. -/
inductive Receiver where
  /-- With the engine, for the next loop. -/
  | held
  /-- With a running loop. -/
  | running
  /-- With a loop that has come to its stop marker. -/
  | ended
  /-- Nowhere: nothing will be received any more. -/
  | lost
  deriving DecidableEq, Repr

end Loopback

/-- The state of the loopback engine. -/
structure Loopback where
  /-- Every call, the earliest first. -/
  calls : List Loopback.Call
  connected : Bool
  /-- The statuses with which calls are refused, by name. -/
  failures : List (String × Status)
  /-- The milliseconds that calls take, by name. -/
  delays : List (String × Nat)
  /-- The integer with which connects are answered. -/
  connectCode : Int
  /-- The broker of the last connect. -/
  endpoint : Option (String × UInt16 × UInt16)
  lastId : MessageId
  /-- Filters with what was granted for them. -/
  subscriptions : List (String × Qos)
  /-- Whether somebody is told about events. -/
  attached : Bool
  receiver : Loopback.Receiver
  mailbox : List Loopback.Mail
  deriving DecidableEq

namespace Loopback

/-- An engine that was never used. -/
def fresh (failures : List (String × Status)) (delays : List (String × Nat)) (connectCode : Int) :
    Loopback where
  calls := []
  connected := false
  failures
  delays
  connectCode
  endpoint := none
  lastId := 0
  subscriptions := []
  attached := false
  receiver := .held
  mailbox := []

/-- The engine with a call added to its record. -/
def record (s : Loopback) (c : Call) : Loopback := { s with calls := s.calls ++ [c] }

/-- The status with which a call is refused, if it is. -/
def refusal? (s : Loopback) (c : Call) : Option Status := s.failures.lookup c.name

/-- The mailbox with something more in it, as long as somebody may receive it. -/
def send (s : Loopback) (m : Mail) : Loopback :=
  if s.receiver = .lost then s else { s with mailbox := s.mailbox ++ [m] }

/-- The mailbox with an event more in it. -/
def emit (s : Loopback) (e : EngineEvent) : Loopback := s.send (.event e)

/-- The number that follows another one; zero is left out. -/
def nextId (id : MessageId) : MessageId := if id + 1 = 0 then 1 else id + 1

/-- An event that a test makes up. -/
def inject (s : Loopback) (e : EngineEvent) : Loopback := s.emit e

/-- The broker goes away. -/
def dropConnection (s : Loopback) (code : Int) : Loopback :=
  { s with connected := false }.emit (.disconnect code)

/-- Takes an option. -/
def set (s : Loopback) (x : Setting) : Status × Loopback :=
  ((s.refusal? (.set x)).getD .success, s.record (.set x))

/-- Hears a command. Stopping the event loop, or letting go of everything, marks the end of the loop. -/
def call (s : Loopback) (c : Command) : Loopback :=
  let refused := (s.refusal? (.command c)).isSome
  let s := s.record (.command c)
  match c with
  | .stopLoop => if !refused && s.receiver == .running then s.send .stop else s
  | .destroy => if s.receiver == .running then s.send .stop else s
  | _ => s

/-- The milliseconds that a command takes; those that concern the loop take none. -/
def pause (s : Loopback) (c : Command) : Nat :=
  match c with
  | .startLoop | .stopLoop | .destroy => 0
  | c => (s.delays.lookup (commandName c)).getD 0

/-- Answers a connect: accepted exactly when the configured code is zero. -/
def answerConnect (s : Loopback) : Reply × Loopback :=
  (.ofStatus .success, { s with connected := s.connectCode == 0 }.emit (.connect s.connectCode))

/-- What a publisher gets back on its own subscriptions: the strongest of the guarantees under which the
matching filters would deliver. -/
def delivery? (s : Loopback) (topic : String) (qos : Qos) : Option Qos :=
  match (s.subscriptions.filter fun (filter, _) => Topic.selects filter topic).map
      fun (_, granted) => qos.weaker granted with
  | [] => none
  | first :: rest => some (rest.foldl Qos.stronger first)

/-- Publishes a message: acknowledged at once, and routed back if some filter selects its topic. -/
def publish (s : Loopback) (topic : String) (payload : ByteArray) (qos : Qos) : Reply × Loopback :=
  let id := if qos = Qos.atMostOnce then 0 else nextId s.lastId
  let s := { s with lastId := if qos = Qos.atMostOnce then s.lastId else id }
  let s := s.emit (.publish id.toNat)
  let s := match s.delivery? topic qos with
    | some delivered =>
      s.emit (.message ⟨id.toNat, some topic.toUTF8, some payload, delivered.level, false⟩)
    | none => s
  (⟨.success, id⟩, s)

/-- The subscriptions with one added, in place of an earlier one for the same filter. -/
def subscribed (qos : Qos) (subscriptions : List (String × Qos)) (filter : String) :
    List (String × Qos) :=
  subscriptions.filter (·.1 != filter) ++ [(filter, qos)]

/-- Subscribes to filters; every one of them is granted as asked. -/
def subscribe (s : Loopback) (filters : List String) (qos : Qos) : Reply × Loopback :=
  let id := nextId s.lastId
  let granted := List.replicate filters.length (qos.level : Int)
  (⟨.success, id⟩,
    { s with lastId := id, subscriptions := filters.foldl (subscribed qos) s.subscriptions }.emit
      (.subscribe id.toNat filters.length granted))

/-- Ends the subscription to a filter. -/
def unsubscribe (s : Loopback) (filter : String) : Reply × Loopback :=
  let id := nextId s.lastId
  (⟨.success, id⟩,
    { s with lastId := id, subscriptions := s.subscriptions.filter (·.1 != filter) }.emit
      (.unsubscribe id.toNat))

/-- Starts the event loop, unless it runs. An engine that nobody listens to gives its mailbox away for
nothing. -/
def startLoop (s : Loopback) : Reply × Loopback :=
  match s.receiver with
  | .running | .ended => (.ofStatus .success, s)
  | .lost => (.ofStatus .inval, s)
  | .held =>
    if s.attached then (.ofStatus .success, { s with receiver := .running })
    else (.ofStatus .inval, { s with receiver := .lost, mailbox := [] })

/-- Takes the mailbox back from a loop that has ended; `none` while the loop runs. -/
def collect? (s : Loopback) : Option Loopback :=
  match s.receiver with
  | .running => none
  | .ended => some { s with receiver := .held }
  | .held | .lost => some s

/-- Does what a command needs a connection for. -/
def whenConnected (s : Loopback) (act : Reply × Loopback) : Reply × Loopback :=
  if s.connected then act else (.ofStatus .noConn, s)

/-- Carries out a command that is not refused and does not wait. -/
def perform (s : Loopback) : Command → Reply × Loopback
  | .connect host port keepAlive =>
    { s with endpoint := some (host, port, keepAlive) }.answerConnect
  | .reconnect => if s.endpoint.isSome then s.answerConnect else (.ofStatus .inval, s)
  | .disconnect =>
    s.whenConnected (.ofStatus .success, { s with connected := false }.emit (.disconnect 0))
  | .publish topic payload qos _ => s.whenConnected (s.publish topic payload qos)
  | .subscribe filters qos => s.whenConnected (s.subscribe filters qos)
  | .unsubscribe filter => s.whenConnected (s.unsubscribe filter)
  | .startLoop => s.startLoop
  | .stopLoop => (.ofStatus .success, s)
  | .destroy => (.ofStatus .success, { s with subscriptions := [], connected := false })

/-- Whether a command waits until the event loop has ended. -/
def awaitsLoop : Command → Bool
  | .stopLoop => true
  | .destroy => true
  | _ => false

/-- Carries out a command: refused with its configured status, if there is one. Letting go of everything cannot
be refused. -/
def finish (s : Loopback) (c : Command) : Option (Reply × Loopback) :=
  match s.refusal? (.command c) with
  | some status =>
    if c = .destroy then s.collect?.map (·.perform c) else some (.ofStatus status, s)
  | none => if awaitsLoop c then s.collect?.map (·.perform c) else some (s.perform c)

/-- The next step of a running loop. -/
def deliver (s : Loopback) : Option (List Report × Loopback) :=
  match s.receiver, s.mailbox with
  | .running, .event e :: rest => some ([.event e], { s with mailbox := rest })
  | .running, .stop :: rest => some ([], { s with mailbox := rest, receiver := .ended })
  | _, _ => none

/-- Is let go: nobody receives anything any more. -/
def release (s : Loopback) : Loopback := { s with receiver := .lost, mailbox := [] }

/-- The behaviour of the engine. -/
def engine : Engine Loopback where
  set := set
  attach s := { s with attached := true }
  call s _ := s.call
  pause := pause
  finish s _ := s.finish
  deliver s _ := s.deliver
  wake? _ _ := none
  pending s := s.mailbox.length
  release := release

end Loopback

end BrokerSession
