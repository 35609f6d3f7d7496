import BrokerSession.Engine
import BrokerSession.Topic

/-!
# The tasks of a session's worker

Every operation of a session becomes a task for its worker, and most tasks become one or two commands to the
engine. Topics and filters are checked first; a task that fails the check never reaches the engine.

## Main definitions

* `Task` - what a worker can be given to do
* `Task.opening` - how a task begins
* `Job` - a task with the ticket under which its outcome is awaited
* `Resolution` - what becomes of a ticket
-/

namespace BrokerSession

/-- What a worker can be given to do. -/
inductive Task where
  | connect (host : String) (port keepAliveSecs : UInt16)
  | reconnect
  /-- Disconnect and stop the event loop; in a teardown nobody awaits the outcome. -/
  | disconnect (teardown : Bool)
  | publish (topic : String) (payload : ByteArray) (qos : Qos) (retain : Bool)
  | subscribe (filters : List String) (qos : Qos)
  | unsubscribe (filter : String)
  /-- Nothing but to be done after everything before it. -/
  | mark
  /-- Let the engine go, and take the session out of the directory. -/
  | destroy
  deriving DecidableEq

/-- How a task begins. -/
inductive Opening where
  /-- With a command to the engine. -/
  | command (c : Command)
  /-- It is refused before the engine hears of it. -/
  | refused
  /-- There is nothing to do. -/
  | nothing
  deriving DecidableEq

/-- Whether filters may be subscribed to: there is at least one, and all of them are well-formed. -/
def subscribable (filters : List String) : Bool :=
  !filters.isEmpty && filters.all fun f => (Topic.filterFault? f).isNone

/-- How a task begins. -/
def Task.opening : Task → Opening
  | connect host port keepAlive => .command (.connect host port keepAlive)
  | reconnect => .command .reconnect
  | disconnect _ => .command .disconnect
  | publish topic payload qos retain =>
    if (Topic.nameFault? topic).isSome then .refused else .command (.publish topic payload qos retain)
  | subscribe filters qos =>
    if subscribable filters then .command (.subscribe filters qos) else .refused
  | unsubscribe filter =>
    if (Topic.filterFault? filter).isSome then .refused else .command (.unsubscribe filter)
  | mark => .nothing
  | destroy => .command .destroy

/-- The number under which an outcome is awaited. -/
abbrev Ticket := Nat

/-- A task, with the ticket under which its outcome is awaited, if anybody awaits it. -/
structure Job where
  ticket : Option Ticket
  task : Task
  deriving DecidableEq

/-- What becomes of a ticket. -/
inductive Resolution where
  | answered (r : Reply)
  /-- The task was given up before it was done. -/
  | closed
  deriving DecidableEq, Repr

end BrokerSession
