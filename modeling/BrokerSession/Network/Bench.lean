import BrokerSession.Network
import BrokerSession.Schedule
import BrokerSession.Session.Journal

/-!
# A network engine on the bench

On the bench an engine is given commands directly, without a session around it. A listener hears its events, and
the journal keeps what it is told until somebody takes it from there.

## Main definitions

* `Bench` - an engine with a listener, a journal and a clock
* `Bench.command` - a command, until it is carried out
* `Bench.takeEntries` - the next lines of the journal, waiting for them if need be
-/

namespace BrokerSession

/-- An engine with a listener, a journal and a clock. -/
structure Bench where
  engine : NetworkEngine
  listener : Listener
  standing : Standing
  /-- What was not taken yet. -/
  journal : List Entry
  clock : Nat

namespace Bench

/-- How long somebody waits for lines or for a connection, in milliseconds. -/
def patience : Nat := 5000

/-- Something comes out of the event loop. -/
def receive (b : Bench) : Report → Bench
  | .event e =>
    let (standing, notice) := b.listener.handle b.standing e
    { b with standing, journal := b.journal ++ (notice.map .notice).toList }
  | .retrying attempt delay => { b with journal := b.journal ++ [.retrying attempt delay] }

/-- The bench under its clock. -/
def process (e : Engine NetworkEngine) : Process Bench where
  step b := (e.deliver b.engine b.clock).map fun (reports, engine) =>
    reports.foldl receive { b with engine }
  wake? b := e.wake? b.engine b.clock
  now := clock
  tick time b := { b with clock := time }
  bound b := e.pending b.engine

/-- Gives the engine an option. -/
def set (e : Engine NetworkEngine) (b : Bench) (x : Setting) : Status × Bench :=
  let (status, engine) := e.set b.engine x
  (status, { b with engine })

/-- Gives the engine a command, and waits until it is carried out. -/
def command (e : Engine NetworkEngine) (b : Bench) (c : Command) : Reply × Bench :=
  let called := { b with engine := e.call b.engine b.clock c }
  let done (b : Bench) : Bool := (e.finish b.engine b.clock c).isSome
  let b := ((process e).waitFor done none called).state
  match e.finish b.engine b.clock c with
  | some (r, engine) => (r, { b with engine })
  | none => (.ofStatus .unknown, b)

/-- Gives the engine the same command several times. -/
def commands (e : Engine NetworkEngine) (c : Command) : Nat → Bench → List Reply × Bench
  | 0, b => ([], b)
  | n + 1, b =>
    let (r, b) := b.command e c
    let (rest, b) := commands e c n b
    (r :: rest, b)

/-- Waits as long as somebody waits for a connection that never comes. -/
def idle (e : Engine NetworkEngine) (b : Bench) : Bench := (process e).sleep patience b

/-- The next lines of the journal: so many, or as many as there are after waiting for them. -/
def takeEntries (e : Engine NetworkEngine) (b : Bench) (count : Nat) : List Entry × Bench :=
  let enough (b : Bench) : Bool := count ≤ b.journal.length
  let b := ((process e).waitFor enough (some (b.clock + patience)) b).state
  (b.journal.take count, { b with journal := b.journal.drop count })

end Bench

end BrokerSession
