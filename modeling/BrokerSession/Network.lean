import BrokerSession.Engine
import BrokerSession.Network.Dial
import BrokerSession.Network.Loop
import BrokerSession.Text.Quoted

/-!
# An engine with a network

The network engine hands requests to the event loop of its current connection through a channel of limited
capacity. A successful connect makes a new event loop, which lies idle until it is started and comes back when
it is stopped; every event loop has a number, so that it can be told which connection it belongs to.

Stopping a loop takes time: after a disconnect it may first finish by itself, and only then is it told to stop.

What the network does is a parameter: at each look of the loop it says what the look brings.

## Main definitions

* `NetworkEngine` - the state of the engine
* `NetworkEngine.reachable?` - whether the current client has a loop that takes its requests
* `NetworkEngine.perform` - the commands, once the loop is out of the way
* `NetworkEngine.deliver` - the steps of the event loop
* `NetworkEngine.engine` - the behaviour of the engine on a network
-/

namespace BrokerSession

/-- What is handed to an event loop. -/
inductive Request where
  | publish (topic : String) (payload : ByteArray) (qos : Qos) (retain : Bool)
  | subscribe (filters : List String) (qos : Qos)
  | unsubscribe (filter : String)
  | disconnect
  deriving DecidableEq

/-- A running event loop, or one that has ended and was not taken back. -/
structure IoTask where
  /-- The number of the event loop. -/
  number : Nat
  loop : IoLoop
  /-- When the next look at the connection is over, or the rest before it. -/
  next : Nat
  /-- Whether it is resting before an attempt. -/
  resting : Bool
  /-- Whether it was told to stop. -/
  stopping : Bool
  finished : Bool
  /-- Whether it broke down, and its event loop with it. -/
  broken : Bool
  deriving DecidableEq

/-- The state of a network engine. -/
structure NetworkEngine where
  settings : NetworkSettings
  /-- Whether somebody is told about events. -/
  attached : Bool
  /-- The broker of the last connect. -/
  endpoint : Option Endpoint
  /-- The number of the event loop that the client belongs to. -/
  client : Option Nat
  /-- The number of an event loop that is not running. -/
  idle : Option Nat
  task : Option IoTask
  ids : PacketIds
  /-- Requests that no event loop has taken. -/
  requests : List Request
  disconnectRequested : Bool
  /-- Until when a loop may finish by itself. -/
  grace : Option Nat
  /-- How many event loops there have been. -/
  opened : Nat
  deriving DecidableEq

/-- What the network does: what a look at the connection brings, if anything, and how many milliseconds it
takes. -/
structure Network where
  outcome : NetworkEngine → Option Outcome
  lookMillis : Nat

/-- A network on which no broker can be reached. -/
def Network.unreachable : Network := ⟨fun _ => some (.failed .transport), 50⟩

namespace NetworkEngine

/-- An engine that was never used. -/
def fresh : NetworkEngine where
  settings := .start
  attached := false
  endpoint := none
  client := none
  idle := none
  task := none
  ids := .start PacketIds.maxWindow
  requests := []
  disconnectRequested := false
  grace := none
  opened := 0

/-- How many requests wait at most. -/
def capacity : Nat := 64

/-- How long a loop may take to finish by itself, in milliseconds. -/
def graceMillis : Nat := 2000

/-- Takes an option. -/
def set (fs : Files) (s : NetworkEngine) (x : Setting) : Status × NetworkEngine :=
  let (status, settings) := s.settings.set fs x
  (status, { s with settings })

/-! ## Requests -/

/-- Whether there is an event loop, running or not. -/
def hasLoop (s : NetworkEngine) : Bool := s.task.isSome || s.idle.isSome

/-- Whether the event loop of a client is still there to take its requests. -/
def takes (s : NetworkEngine) (client : Nat) : Bool :=
  s.idle == some client || s.task.any fun t => t.number == client && !t.broken

/-- The status of a request that was not taken. -/
def refusedStatus (s : NetworkEngine) : Status := if s.hasLoop then .noMem else .noConn

/-- Hands in a request, if it is acceptable and there is room for it. -/
def request? (s : NetworkEngine) (client : Nat) (acceptable : Bool) (r : Request) :
    Option NetworkEngine :=
  if acceptable && s.takes client && s.requests.length < capacity then
    some { s with requests := s.requests ++ [r] }
  else none

/-- The engine after giving out a number. -/
def numbered (s : NetworkEngine) : Reply × NetworkEngine :=
  let (id, ids) := s.ids.next
  (⟨.success, id⟩, { s with ids })

/-- Asks for the end of the connection. -/
def disconnect (s : NetworkEngine) : Reply × NetworkEngine :=
  match s.client with
  | none => (.ofStatus .noConn, s)
  | some client =>
    match s.request? client true .disconnect with
    | some s => (.ofStatus .success, { s with disconnectRequested := true })
    | none => (.ofStatus s.refusedStatus, s)

/-- Publishes a message, if it is not too large for a packet. -/
def publish (s : NetworkEngine) (topic : String) (payload : ByteArray) (qos : Qos) (retain : Bool) :
    Reply × NetworkEngine :=
  match s.client with
  | none => (.ofStatus .noConn, s)
  | some client =>
    if maxPacketSize < topic.utf8ByteSize + payload.size then (.ofStatus .payloadSize, s)
    else
      match s.request? client (!Topic.hasWildcard topic) (.publish topic payload qos retain) with
      | some s => if qos = .atMostOnce then (⟨.success, 0⟩, s) else s.numbered
      | none => (.ofStatus s.refusedStatus, s)

/-- Whether an event loop lets a filter through. -/
def acceptsFilter (filter : String) : Bool :=
  !filter.isEmpty && Topic.levelsFit (Topic.levels filter)

/-- Subscribes to filters. -/
def subscribe (s : NetworkEngine) (filters : List String) (qos : Qos) : Reply × NetworkEngine :=
  match s.client with
  | none => (.ofStatus .noConn, s)
  | some client =>
    if filters.isEmpty then (.ofStatus .inval, s)
    else
      match s.request? client (filters.all acceptsFilter) (.subscribe filters qos) with
      | some s => s.numbered
      | none => (.ofStatus s.refusedStatus, s)

/-- Ends the subscription to a filter. -/
def unsubscribe (s : NetworkEngine) (filter : String) : Reply × NetworkEngine :=
  match s.client with
  | none => (.ofStatus .noConn, s)
  | some client =>
    match s.request? client true (.unsubscribe filter) with
    | some s => s.numbered
    | none => (.ofStatus s.refusedStatus, s)

/-! ## The event loop -/

/-- What connections to the last broker are opened with. -/
def dial? (s : NetworkEngine) : Except Status Dial :=
  match s.endpoint with
  | none => .error .inval
  | some endpoint => s.settings.dial endpoint

/-- Wants the running loop to end: after a disconnect it may finish by itself, otherwise it is told to stop. -/
def halt (s : NetworkEngine) (now : Nat) : NetworkEngine :=
  match s.task with
  | none => s
  | some t =>
    if s.disconnectRequested then { s with grace := some (now + graceMillis) }
    else { s with task := some { t with stopping := true } }

/-- Takes the event loop back from a task that has ended, unless it broke down; `none` while it runs. -/
def recover? (s : NetworkEngine) : Option NetworkEngine :=
  match s.task with
  | none => some { s with grace := none }
  | some t =>
    if t.finished then
      some { s with task := none, idle := if t.broken then s.idle else some t.number, grace := none }
    else none

/-- The running loop breaks down. -/
def breakDown? (s : NetworkEngine) : Option NetworkEngine :=
  match s.task with
  | none => none
  | some t => if t.finished then none else some { s with task := some { t with finished := true, broken := true } }

/-- Gives up waiting for a loop that was told to stop and does not: it is cut off, with its event loop. -/
def abandon? (s : NetworkEngine) : Option NetworkEngine :=
  match s.task with
  | none => none
  | some t => if t.stopping && !t.finished then some { s with task := none, grace := none } else none

/-- A new connection, with an event loop and a window of its own. -/
def openLink (s : NetworkEngine) (d : Dial) : NetworkEngine :=
  { s with
    client := some s.opened
    idle := some s.opened
    ids := .start d.window
    requests := []
    disconnectRequested := false
    opened := s.opened + 1 }

/-- Starts the idle event loop at a time. -/
def startIdle (n : Network) (s : NetworkEngine) (now : Nat) : Reply × NetworkEngine :=
  match s.idle with
  | none => (.ofStatus .noConn, s)
  | some number =>
    (.ofStatus .success,
      { s with
        idle := none
        task := some {
          number
          loop := .start s.settings.policy
          next := now + n.lookMillis
          resting := false
          stopping := false
          finished := false
          broken := false } })

/-- Whether a loop is running. -/
def isRunning (s : NetworkEngine) : Bool := s.task.any fun t => !t.finished

/-- Hears a command. Commands that need the running loop out of the way want it to end. -/
def call (s : NetworkEngine) (now : Nat) (c : Command) : NetworkEngine :=
  match c with
  | .connect host port keepAlive =>
    let s := { s with endpoint := some ⟨host, port, keepAlive⟩ }
    if s.dial?.isOk then s.halt now else s
  | .reconnect => if s.dial?.isOk then s.halt now else s
  | .stopLoop | .destroy => s.halt now
  | _ => s

/-- Opens a new connection once no loop is running; `none` before that. -/
def reopen? (s : NetworkEngine) : Option (Reply × NetworkEngine) :=
  match s.dial? with
  | .error status => some (.ofStatus status, s)
  | .ok d => s.recover?.map fun s => (.ofStatus .success, s.openLink d)

/-- Carries out a command; `none` while it waits for the loop to end. -/
def finish (n : Network) (s : NetworkEngine) (now : Nat) (c : Command) :
    Option (Reply × NetworkEngine) :=
  match c with
  | .connect .. | .reconnect => s.reopen?
  | .disconnect => some s.disconnect
  | .publish topic payload qos retain => some (s.publish topic payload qos retain)
  | .subscribe filters qos => some (s.subscribe filters qos)
  | .unsubscribe filter => some (s.unsubscribe filter)
  | .startLoop =>
    if s.isRunning then some (.ofStatus .success, s)
    else s.recover?.map fun s => s.startIdle n now
  | .stopLoop => s.recover?.map fun s => (.ofStatus .success, s)
  | .destroy =>
    s.recover?.map fun s =>
      (.ofStatus .success, { s with client := none, idle := none, attached := false })

/-- What comes out of an event, as long as somebody is told. -/
def report (s : NetworkEngine) (event : Option EngineEvent) : List Report :=
  if s.attached then (event.map Report.event).toList else []

/-- The effect of an outcome on a running loop at a time. -/
def look (n : Network) (s : NetworkEngine) (now : Nat) (t : IoTask) (o : Outcome) :
    List Report × NetworkEngine :=
  let (event, course) := t.loop.react t.stopping o
  let told := s.report event
  match course with
  | .goOn loop => (told, { s with task := some { t with loop, next := now + n.lookMillis } })
  | .rest loop attempt delay =>
    (told ++ [.retrying attempt delay],
      { s with task := some { t with loop, next := now + 1000 * delay, resting := true } })
  | .stop => (told, { s with task := some { t with finished := true } })

/-- The next step of a running loop at a time: it stops, comes out of a rest, or looks at the connection. -/
def deliver (n : Network) (s : NetworkEngine) (now : Nat) : Option (List Report × NetworkEngine) :=
  match s.task with
  | none => none
  | some t =>
    if t.finished then none
    else if t.stopping then some ([], { s with task := some { t with finished := true } })
    else if s.grace.any (· ≤ now) then some ([], { s with task := some { t with stopping := true } })
    else if now < t.next then none
    else if t.resting then
      some ([], { s with task := some { t with resting := false, next := now + n.lookMillis } })
    else (n.outcome s).map (s.look n now t)

/-- The next time after a given one at which a running loop goes on by itself. -/
def wake? (s : NetworkEngine) (now : Nat) : Option Nat :=
  match s.task with
  | none => none
  | some t =>
    if t.finished then none
    else ([some t.next, s.grace].reduceOption.filter (now < ·)).min?

/-- Is let go: whatever runs is abandoned. -/
def release (s : NetworkEngine) : NetworkEngine :=
  { s with task := none, idle := none, client := none, attached := false }

/-- The behaviour of the engine, over a tree of files and a network. -/
def engine (fs : Files) (n : Network) : Engine NetworkEngine where
  set := set fs
  attach s := { s with attached := true }
  call := call
  pause _ _ := 0
  finish := finish n
  deliver := deliver n
  wake? := wake?
  pending _ := 4096
  release := release

/-! ## Description -/

/-- The text that describes an engine, with the port written as it is shown. -/
def describe (showPort : Endpoint → String) (s : NetworkEngine) : String :=
  let place := match s.endpoint with
    | none => "None"
    | some e =>
      "Some(Endpoint \x7b host: " ++ Quoted.encode e.host ++ ", port: " ++ showPort e ++
        ", keep_alive_secs: " ++ toString e.keepAliveSecs.toNat ++ " \x7d)"
  "RumqttEngine \x7b endpoint: " ++ place ++ ", connected: " ++ toString s.client.isSome ++
    ", loop_running: " ++ toString s.task.isSome ++ " \x7d"

end NetworkEngine

end BrokerSession
