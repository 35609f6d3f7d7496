/-!
# The phase of a session

A session is in one of four phases of its connection, and it is either meant to run or meant to rest. The
two are kept apart: a session that has lost its connection is still meant to run.

## Main definitions

* `Phase` - where the connection stands
* `Standing` - the phase, and whether the session is meant to run
-/

namespace BrokerSession

/-- Where the connection of a session stands. -/
inductive Phase where
  /-- At first, and after an end of the connection that nobody will mend. -/
  | disconnected
  /-- A connect is queued, or the engine tries again on its own. -/
  | connecting
  /-- The broker accepted the connection. -/
  | connected
  /-- A disconnect is queued and not confirmed. -/
  | disconnecting
  deriving DecidableEq, Repr, Inhabited

/-- The word for a phase. -/
def Phase.word : Phase → String
  | disconnected => "disconnected"
  | connecting => "connecting"
  | connected => "connected"
  | disconnecting => "disconnecting"

/-- The phase a word stands for. -/
def Phase.ofWord? (text : String) : Option Phase :=
  [disconnected, connecting, connected, disconnecting].find? (·.word == text)

/-- The part of a session that its owner and the event path share. -/
structure Standing where
  phase : Phase
  /-- Set by a connect, cleared by a disconnect: whether the session is meant to run. -/
  running : Bool
  deriving DecidableEq, Repr

/-- A new session rests. -/
instance : Inhabited Standing := ⟨⟨.disconnected, false⟩⟩

/-- Whether the broker accepted the connection and it has not been lost since. -/
def Standing.isConnected (s : Standing) : Bool := s.phase == .connected

end BrokerSession
