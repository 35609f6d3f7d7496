import BrokerSession.Event
import BrokerSession.Setting

/-!
# What a session asks of an engine

A session speaks no protocol itself: it gives commands to an engine, one at a time. A command is begun, may take
its time, and comes back with a reply. What happens on the connection in the meantime comes out of the engine's
event loop, one event after another.

## Main definitions

* `Command` - what an engine can be told to do
* `Report` - what comes out of an event loop
* `Engine` - how an engine with states in `σ` behaves
-/

namespace BrokerSession

/-- What an engine can be told to do. -/
inductive Command where
  | connect (host : String) (port keepAliveSecs : UInt16)
  /-- Connect to the last broker again. -/
  | reconnect
  | disconnect
  | publish (topic : String) (payload : ByteArray) (qos : Qos) (retain : Bool)
  | subscribe (filters : List String) (qos : Qos)
  | unsubscribe (filter : String)
  /-- Let events come out. -/
  | startLoop
  | stopLoop
  /-- Let go of everything; nothing follows. -/
  | destroy
  deriving DecidableEq

/-- What comes out of an event loop. -/
inductive Report where
  | event (e : EngineEvent)
  /-- The engine will try to connect again after some seconds. -/
  | retrying (attempt delaySecs : Nat)
  deriving DecidableEq

/-- How an engine with states in `σ` behaves; times are in milliseconds. -/
structure Engine (σ : Type) where
  /-- Takes an option, before the first connect. -/
  set : σ → Setting → Status × σ
  /-- Is told where its events go. -/
  attach : σ → σ
  /-- Hears a command at a time. -/
  call : σ → Nat → Command → σ
  /-- How long it takes before a command that was heard is carried out. -/
  pause : σ → Command → Nat
  /-- Carries out a command that was heard, at a time; `none` while it waits for the event loop. -/
  finish : σ → Nat → Command → Option (Reply × σ)
  /-- The next step of the event loop at a time, with what comes out of it; `none` while the loop does not run
  or has nothing to do. -/
  deliver : σ → Nat → Option (List Report × σ)
  /-- The next time, after a given one, at which something goes on by itself. -/
  wake? : σ → Nat → Option Nat
  /-- A bound on the steps that the event loop can take without a new command. -/
  pending : σ → Nat
  /-- Is let go by its owner. -/
  release : σ → σ

end BrokerSession
