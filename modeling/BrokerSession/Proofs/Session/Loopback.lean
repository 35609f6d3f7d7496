import BrokerSession.Proofs.Loopback
import BrokerSession.Proofs.Session.Orderly
import BrokerSession.Proofs.Staging

/-!
# A session over the loopback engine

The event loop of the loopback engine takes one thing at a time out of the mailbox. An event reaches the session
as long as its key is in the directory, and a stop marker ends the loop.

## Main definitions

* `Loopback.Stir` - what a test does to the engine from outside
* `Session.Move.Ordinary` - the moves of a session over the loopback engine whose worker does not crash

## Main results

* `loopStep?_loopback` - what a step of the event loop does
* `hear_of_registered` - what an event does to a session that is registered
-/

namespace BrokerSession

/-- What a test does to the loopback engine from outside. -/
inductive Loopback.Stir where
  /-- It makes up an event. -/
  | inject (event : EngineEvent)
  /-- It makes the broker go away. -/
  | drop (code : Int)

/-- The engine after a test has stirred it. -/
def Loopback.Stir.apply : Loopback.Stir → Loopback → Loopback
  | inject event, s => s.inject event
  | drop code, s => s.dropConnection code

namespace Loopback.Stir

@[simp] theorem apply_failures (stir : Stir) (s : Loopback) :
    (stir.apply s).failures = s.failures := by
  cases stir <;> simp [apply, Loopback.inject, dropConnection]

@[simp] theorem apply_receiver (stir : Stir) (s : Loopback) :
    (stir.apply s).receiver = s.receiver := by
  cases stir <;> simp [apply, Loopback.inject, dropConnection]

end Loopback.Stir

namespace Session

variable {s t : Session Loopback}

/-- Whether a move belongs to the session, or to a test that stirs its engine. A crash of the worker does not. -/
def Move.Ordinary : Move Loopback → Prop
  | .outside f => ∃ stir : Loopback.Stir, f = stir.apply
  | .crash => False
  | _ => True

theorem hear_of_registered {σ : Type} {s : Session σ} {listener : Listener}
    (here : s.directory.lookup? s.key = some listener) (event : EngineEvent) :
    s.hear event = { s with
      standing := listener.advance s.standing event
      journal := s.journal ++ ((listener.tell? event).map .notice).toList } := by
  simp [hear, here, Listener.handle]

/-- A step of the event loop takes an event or a stop marker out of the mailbox. -/
theorem loopStep?_loopback (h : s.loopStep? Loopback.engine = some t) :
    s.engine.receiver = .running ∧ ∃ rest,
      (∃ event, s.engine.mailbox = .event event :: rest ∧
        t = { s with engine := { s.engine with mailbox := rest } }.hear event) ∨
      (s.engine.mailbox = .stop :: rest ∧
        t = { s with engine := { s.engine with mailbox := rest, receiver := .ended } }) := by
  obtain ⟨⟨reports, engine⟩, delivered, rfl⟩ := Option.map_eq_some_iff.mp h
  simp only [Loopback.engine, Loopback.deliver] at delivered
  split at delivered
  · rename_i event rest running waits
    cases delivered
    exact ⟨running, rest, .inl ⟨event, waits, rfl⟩⟩
  · rename_i rest running waits
    cases delivered
    exact ⟨running, rest, .inr ⟨waits, rfl⟩⟩
  · cases delivered

theorem loopStep?_eq_none (still : s.engine.receiver ≠ .running) :
    s.loopStep? Loopback.engine = none := by
  cases h : s.loopStep? Loopback.engine with
  | none => rfl
  | some t => exact absurd (loopStep?_loopback h).1 still

/-- A session begins with an engine that was told its options and has an event path, and is otherwise unused. -/
theorem engine_of_establish {hosted : Bool} {fs : Files} {env : Environment} {c : Config}
    {clientId : String} {wanted : List Notice.Kind} {directory : Directory Listener}
    {failures : List (String × Status)} {delays : List (String × Nat)} {code : Int}
    {engine : Loopback}
    (established : establish Loopback.engine hosted fs env c clientId wanted directory
      (.fresh failures delays code) = (.ok s, engine)) :
    ∃ calls, s.engine = { Loopback.fresh failures delays code with calls, attached := true } := by
  obtain ⟨staged, staging, rfl⟩ := establish_eq_ok established
  have recorded (u : Loopback) (x : Setting)
      (h : ∃ calls, u = { Loopback.fresh failures delays code with calls }) :
      ∃ calls, (u.set x).2 = { Loopback.fresh failures delays code with calls } := by
    obtain ⟨calls, rfl⟩ := h
    exact ⟨calls ++ [.set x], rfl⟩
  obtain ⟨calls, rfl⟩ := Config.stage_keeps recorded staging ⟨[], rfl⟩
  exact ⟨calls, rfl⟩

end Session

end BrokerSession
