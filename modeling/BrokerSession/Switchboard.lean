import BrokerSession.Directory
import BrokerSession.Session.Listener

/-!
# Routing events to sessions

A switchboard holds the sessions of a process, live or not, and the directory of the live ones. An event that
comes in under a key reaches the session registered under that key, and no other; under a key that is not
registered it reaches nobody.

## Main definitions

* `Switchboard` - the sessions of a process and the directory of the live ones
* `Switchboard.register` - a new session, live from now on
* `Switchboard.dispatch` - an event under a key
-/

namespace BrokerSession

/-- A session as the event path sees it. -/
structure Attendance where
  listener : Listener
  standing : Standing
  deriving DecidableEq, Repr

/-- The sessions of a process, and the directory of the live ones; sessions are referred to by their place. -/
structure Switchboard where
  sessions : List Attendance
  directory : Directory Nat

namespace Switchboard

/-- A process without sessions. -/
def empty : Switchboard := ⟨[], .empty⟩

/-- Adds a session and registers it: the key and the place that it gets. -/
def register (b : Switchboard) (a : Attendance) : SessionKey × Nat × Switchboard :=
  let place := b.sessions.length
  let (key, directory) := b.directory.register place
  (key, place, ⟨b.sessions ++ [a], directory⟩)

/-- The session registered under a key. -/
def lookup? (b : Switchboard) (k : SessionKey) : Option Attendance := do
  b.sessions[← b.directory.lookup? k]?

/-- Takes a key out of the directory; the session stays as it is. -/
def unregister (b : Switchboard) (k : SessionKey) : Option Attendance × Switchboard :=
  (b.lookup? k, { b with directory := (b.directory.unregister k).2 })

/-- Takes every key out of the directory. -/
def clear (b : Switchboard) : Switchboard := { b with directory := b.directory.clear }

/-- An event under a key: the place of the session it reaches with the notice it causes there, and the
switchboard afterwards. -/
def dispatch (b : Switchboard) (k : SessionKey) (e : EngineEvent) :
    Option (Nat × Option Notice) × Switchboard :=
  match b.directory.lookup? k with
  | none => (none, b)
  | some place =>
    match b.sessions[place]? with
    | none => (none, b)
    | some a =>
      let (standing, notice) := a.listener.handle a.standing e
      (some (place, notice), { b with sessions := b.sessions.set place { a with standing } })

end Switchboard

end BrokerSession
