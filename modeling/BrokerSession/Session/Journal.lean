import BrokerSession.Config.Error
import BrokerSession.Session.Listener

/-!
# The journal of a session

What a session tells its application, what it warns about, and when its engine tries again, in the order in
which it happened.

## Main definitions

* `Warning`, `Warning.message` - what a session warns about
* `Entry` - a line of the journal
-/

namespace BrokerSession

/-- What a session warns about. -/
inductive Warning where
  | connectRefused
  | teardownDisconnectFailed
  | loopNotStopped
  | drainTimeout
  | workerFailed
  | commandNotQueued (e : SessionError)
  | teardownNotQueued (e : SessionError)
  deriving DecidableEq, Repr

/-- The text of a warning. -/
def Warning.message : Warning → String
  | connectRefused => "Engine refused to connect"
  | teardownDisconnectFailed => "Disconnect during teardown failed"
  | loopNotStopped => "Engine loop did not stop cleanly"
  | drainTimeout => "Command queue worker did not drain in time"
  | workerFailed => "Command queue worker failed"
  | commandNotQueued e => "Failed to queue command: " ++ e.message
  | teardownNotQueued e => "Failed to queue engine teardown: " ++ e.message

/-- A line of the journal. -/
inductive Entry where
  /-- The application was told something. -/
  | notice (n : Notice)
  | warning (w : Warning) (status : Option Status)
  /-- The engine will try again after some seconds. -/
  | retrying (attempt delaySecs : Nat)
  deriving DecidableEq

end BrokerSession
