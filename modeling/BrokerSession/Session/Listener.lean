import BrokerSession.Event
import BrokerSession.Session.Phase

/-!
# From engine events to an application

A listener stands between the engine of a session and its application. It moves the session to the phase that
an event calls for, and tells the application what it asked to be told. Malformed events tell nothing.

## Main definitions

* `Notice`, `Notice.Kind` - what an application is told
* `EngineEvent.notice?` - the notice of an event, `none` for a malformed one
* `Listener` - whom the session tells, and whether its engine retries on its own
* `Listener.advance` - the standing after an event
* `Listener.handle` - both effects of an event together
-/

namespace BrokerSession

/-- What an application is told. -/
inductive Notice where
  | connected (code : ConnectCode)
  | disconnected (reason : LossReason)
  | published (id : MessageId)
  | message (m : Message)
  | subscribed (id : MessageId) (granted : List Int)
  | unsubscribed (id : MessageId)
  deriving DecidableEq

/-- The kinds of notices, each of which an application may ask for or not. -/
inductive Notice.Kind where
  | connect
  | disconnect
  | publish
  | message
  | subscribe
  | unsubscribe
  deriving DecidableEq, Repr

namespace Notice

/-- All kinds. -/
def Kind.all : List Kind := [.connect, .disconnect, .publish, .message, .subscribe, .unsubscribe]

/-- The word for a kind. -/
def Kind.word : Kind → String
  | .connect => "connect"
  | .disconnect => "disconnect"
  | .publish => "publish"
  | .message => "message"
  | .subscribe => "subscribe"
  | .unsubscribe => "unsubscribe"

/-- The kind a word stands for. -/
def Kind.ofWord? (text : String) : Option Kind := Kind.all.find? (·.word == text)

/-- The kind of a notice. -/
def kind : Notice → Kind
  | connected _ => .connect
  | disconnected _ => .disconnect
  | published _ => .publish
  | message _ => .message
  | subscribed .. => .subscribe
  | unsubscribed _ => .unsubscribe

end Notice

/-- The notice of an event; `none` when the event is malformed. -/
def EngineEvent.notice? : EngineEvent → Option Notice
  | connect code => some (.connected (.ofCode code))
  | disconnect code => some (.disconnected (.ofCode code))
  | publish id => (messageId? id).map .published
  | message raw => raw.toMessage?.map .message
  | subscribe id count granted =>
    (messageId? id).map (.subscribed · (grantedPrefix count granted))
  | unsubscribe id => (messageId? id).map .unsubscribed

/-- Whom a session tells about its events. -/
structure Listener where
  clientId : String
  /-- The kinds of notices that the application asked for. -/
  wanted : List Notice.Kind
  /-- Whether the engine tries again on its own after a loss. -/
  autoReconnect : Bool
  deriving DecidableEq, Repr

namespace Listener

/-- The phase after a loss or a refusal: a session that is meant to run waits for the engine's next attempt,
if there will be one. -/
def retryPhase (l : Listener) (running : Bool) : Phase :=
  if l.autoReconnect && running then .connecting else .disconnected

/-- The standing after an event. Only answers to connects and ends of connections move it. -/
def advance (l : Listener) (s : Standing) : EngineEvent → Standing
  | .connect code =>
    if code = 0 then { s with phase := .connected }
    else { s with phase := l.retryPhase s.running }
  | .disconnect _ => { s with phase := l.retryPhase s.running }
  | _ => s

/-- The notice of an event, if the application asked for its kind. -/
def tell? (l : Listener) (e : EngineEvent) : Option Notice :=
  e.notice?.filter fun n => l.wanted.contains n.kind

/-- Both effects of an event: the standing it leaves, and what the application is told. -/
def handle (l : Listener) (s : Standing) (e : EngineEvent) : Standing × Option Notice :=
  (l.advance s e, l.tell? e)

@[simp] theorem advance_running (l : Listener) (s : Standing) (e : EngineEvent) :
    (l.advance s e).running = s.running := by
  cases e with
  | connect code => simp only [advance]; split <;> rfl
  | _ => rfl

end Listener

end BrokerSession
