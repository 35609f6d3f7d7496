import BrokerSession.Packet
import BrokerSession.Retry

/-!
# The loop that drives a connection

Each look at the connection brings a packet, something that was written, or a failure. All of them may be
reported as events. After a failure the retry policy says whether to try again, and after how long; attempts are
counted from the last time the broker accepted a connection.

## Main definitions

* `Outcome` - what a look at the connection brings
* `IoLoop` - the policy, and the attempts since the last success
* `IoLoop.react` - what the loop reports, and how it goes on
-/

namespace BrokerSession

/-- What a look at the connection brings. -/
inductive Outcome where
  | arrived (p : Packet)
  | written (o : Outgoing)
  | failed (e : LinkError)
  deriving DecidableEq

/-- The event that an outcome is reported as. -/
def Outcome.event? : Outcome → Option EngineEvent
  | arrived p => p.event?
  | written o => o.event?
  | failed e => some e.event

/-- The policy of a loop, and the attempts since the last success. -/
structure IoLoop where
  policy : RetryPolicy
  attempts : Nat
  deriving DecidableEq, Repr

/-- How a loop goes on. -/
inductive Course where
  | goOn (l : IoLoop)
  /-- Rests for some seconds before the next attempt. -/
  | rest (l : IoLoop) (attempt delaySecs : Nat)
  | stop
  deriving DecidableEq, Repr

namespace IoLoop

/-- A loop before its first look. -/
def start (policy : RetryPolicy) : IoLoop := ⟨policy, 0⟩

/-- Whether an outcome is the broker's acceptance of the connection. -/
def isAcceptance (o : Outcome) : Bool :=
  match o with
  | .failed _ => false
  | o => o.event? == some (.connect 0)

/-- How a loop goes on after an outcome. -/
def course (l : IoLoop) (shutdown : Bool) (o : Outcome) : Course :=
  match o with
  | .failed _ =>
    match l.policy.decide l.attempts shutdown with
    | .proceed attempt delay => .rest { l with attempts := attempt } attempt delay
    | .shutdownRequested => .stop
    | .retryDisabled => .stop
  | .written .disconnect => .stop
  | o => .goOn (if isAcceptance o then { l with attempts := 0 } else l)

/-- What a loop reports about an outcome, and how it goes on. -/
def react (l : IoLoop) (shutdown : Bool) (o : Outcome) : Option EngineEvent × Course :=
  (o.event?, l.course shutdown o)

end IoLoop

end BrokerSession
