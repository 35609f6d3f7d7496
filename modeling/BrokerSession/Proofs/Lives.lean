import BrokerSession.Proofs.Histories
import BrokerSession.Proofs.Session.Overtaking

/-!
# The life of an engine

An engine is given options, hears commands, and answers each before it hears the next. Other things may happen to it at
any time, between a command and its answer too: its event loop goes on, or a test interferes. A life is what happens to
an engine, one thing after another, from when it was new.

## Main definitions

* `Incident` - what happens to an engine
* `Engine.Life` - a history, with the command that waits for its answer and the state that the engine is in
* `openings` - how often a connection was opened
* `Parted` - the owner has parted from the broker, and not asked for a connection again

## Main results

* `Loopback.connected_of_severed` - a loopback engine has no connection that its owner has ended
-/

namespace BrokerSession

/-- What happens to an engine. What is aside from its owner is of a kind `ι` of its own. -/
inductive Incident (ι : Type) where
  | set (x : Setting)
  /-- Somebody will be told about events. -/
  | attached
  | heard (c : Command)
  | answered (c : Command) (r : Reply)
  | aside (i : ι)

namespace Incident

variable {ι : Type}

/-- The command that an incident is about. -/
def command? : Incident ι → Option Command
  | heard c => some c
  | answered c _ => some c
  | _ => none

/-- Whether an incident is about a command that asks for a connection. -/
def asks (x : Incident ι) : Bool := x.command?.any Command.asks

/-- Whether an incident is that a connection was opened. -/
def opens : Incident ι → Bool
  | answered c r => c.asks && r.status == .success
  | _ => false

/-- Whether an incident is that a connection was ended by its owner. -/
def severs : Incident ι → Bool
  | answered c r => c == .disconnect && r.status == .success
  | _ => false

/-- Whether an incident is that a loop was stopped. -/
def stops : Incident ι → Bool
  | answered c _ => c == .stopLoop
  | _ => false

theorem opens_of_asks {c : Command} {r : Reply} (asks : c.asks = true) (fine : r.status = .success) :
    (answered c r : Incident ι).opens = true := by
  simp [opens, asks, fine]

/-- A refusal neither opens a connection nor ends one. -/
theorem of_refused {c : Command} {r : Reply} (fails : r.status ≠ .success) :
    (answered c r : Incident ι).opens = false ∧ (answered c r : Incident ι).severs = false := by
  simp [opens, severs, fails]

end Incident

variable {σ ι : Type} {h : List (Incident ι)} {x : Incident ι}

/-! ## Histories -/

/-- How often a connection was opened. -/
def openings (h : List (Incident ι)) : Nat := h.countP Incident.opens

@[simp] theorem openings_concat (h : List (Incident ι)) (x : Incident ι) :
    openings (h ++ [x]) = openings h + if x.opens then 1 else 0 := by
  simp [openings, List.countP_cons]

/-- The owner has ended the connection, and not asked for one since. -/
def Severed (h : List (Incident ι)) : Prop :=
  ∃ early x late, h = early ++ x :: late ∧ x.severs = true ∧ ∀ y ∈ late, y.asks = false

/-- The owner has ended the connection and then stopped the loop, and not asked for a connection since. -/
def Parted (h : List (Incident ι)) : Prop :=
  ∃ early x mid y late, h = early ++ x :: (mid ++ y :: late) ∧ x.severs = true ∧ y.stops = true ∧
    ∀ z ∈ mid ++ y :: late, z.asks = false

theorem severed_concat : Severed (h ++ [x]) ↔ x.severs = true ∨ Severed h ∧ x.asks = false :=
  exists_split_concat

/-- What is not about a command makes no difference. -/
theorem severed_concat_of_quiet (quiet : x.command? = none) : Severed (h ++ [x]) ↔ Severed h := by
  have neutral : x.severs = false ∧ x.asks = false := by
    cases x <;> first | exact ⟨rfl, rfl⟩ | cases quiet
  simp [severed_concat, neutral]

theorem Parted.severed (parted : Parted h) : Severed h := by
  obtain ⟨early, x, mid, y, late, rfl, severs, -, silent⟩ := parted
  exact ⟨early, x, mid ++ y :: late, rfl, severs, silent⟩

/-! ## Lives -/

/-- The lives of an engine that was new in a state: what has happened to it, the command that waits for its answer, and
the state that it is in. What may happen aside depends on what waits. The times at which commands are heard and answered
are any. -/
inductive Engine.Life (e : Engine σ) (aside : Option Command → σ → ι → σ → Prop) (new : σ) :
    List (Incident ι) → Option Command → σ → Prop
  | begin : Life e aside new [] none new
  | set {h : List (Incident ι)} {s : σ} (x : Setting) (life : Life e aside new h none s) :
    Life e aside new (h ++ [.set x]) none (e.set s x).2
  | attach {h : List (Incident ι)} {s : σ} (life : Life e aside new h none s) :
    Life e aside new (h ++ [.attached]) none (e.attach s)
  | hear {h : List (Incident ι)} {s : σ} (now : Nat) (c : Command) (life : Life e aside new h none s) :
    Life e aside new (h ++ [.heard c]) (some c) (e.call s now c)
  | answer {h : List (Incident ι)} {s u : σ} {now : Nat} {c : Command} {r : Reply}
    (life : Life e aside new h (some c) s) (done : e.finish s now c = some (r, u)) :
    Life e aside new (h ++ [.answered c r]) none u
  | aside {h : List (Incident ι)} {busy : Option Command} {s u : σ} {i : ι} (life : Life e aside new h busy s)
    (happened : aside busy s i u) : Life e aside new (h ++ [.aside i]) busy u

namespace Engine.Life

variable {e : Engine σ} {aside : Option Command → σ → ι → σ → Prop} {new s u : σ} {r : Reply}

/-- A command that is answered at the time at which it is heard. -/
theorem exchange (now : Nat) (c : Command) (life : e.Life aside new h none s)
    (done : e.finish (e.call s now c) now c = some (r, u)) :
    e.Life aside new (h ++ [.heard c] ++ [.answered c r]) none u :=
  .answer (.hear now c life) done

end Engine.Life

/-! ## Lives of the loopback engine -/

namespace Loopback

/-- What may happen aside to a loopback engine: its loop takes the next piece of mail, or a test stirs it. -/
inductive Aside (busy : Option Command) (s : Loopback) : List Report ⊕ Stir → Loopback → Prop
  | delivered {reports : List Report} {u : Loopback} (taken : s.deliver = some (reports, u)) :
    Aside busy s (.inl reports) u
  | stirred (stir : Stir) : Aside busy s (.inr stir) (stir.apply s)

/-- The lives of a loopback engine that was new in a state. -/
abbrev Lives : Loopback → List (Incident (List Report ⊕ Stir)) → Option Command → Loopback → Prop := engine.Life Aside

variable {new s : Loopback} {h : List (Incident (List Report ⊕ Stir))} {busy : Option Command}

/-- What an engine refuses is settled when it is new. -/
theorem failures_of_life (life : Lives new h busy s) : s.failures = new.failures := by
  induction life with
  | begin => rfl
  | set x life same => exact same
  | attach life same => exact same
  | hear now c life same => exact (call_failures _ c).trans same
  | answer life done same => exact (failures_of_finish done).trans same
  | aside life happened same =>
    cases happened with
    | delivered taken => exact (connected_of_deliver taken).2.trans same
    | stirred stir => exact (stir.apply_failures _).trans same

/-- Once its owner has ended the connection there is none, until the owner asks for one. -/
theorem connected_of_severed (life : Lives new h busy s) (unrefused : new.failures = []) (severed : Severed h) :
    s.connected = false := by
  induction life with
  | begin =>
    obtain ⟨early, x, late, split, -⟩ := severed
    simp at split
  | set x life gone => exact gone ((severed_concat_of_quiet rfl).mp severed)
  | attach life gone => exact gone ((severed_concat_of_quiet rfl).mp severed)
  | hear now c life gone =>
    rw [severed_concat] at severed
    exact (call_connected _ c).trans (gone (severed.resolve_left nofun).1)
  | @answer h s u now c r life done gone =>
    have willing : s.failures.lookup "disconnect" = none := by simp [failures_of_life life, unrefused]
    -- A connection that is there now was there before or has been asked for, and the history tells against both.
    by_contra there
    rcases connected_of_finish willing done (by simpa using there) with ⟨before, other⟩ | asks
    · rcases severed_concat.mp severed with severs | ⟨severed, -⟩
      · simp [Incident.severs, other] at severs
      · simp [gone severed] at before
    · rcases severed_concat.mp severed with severs | ⟨-, silent⟩
      · simp only [Incident.severs, Bool.and_eq_true, beq_iff_eq] at severs
        rw [severs.1] at asks
        cases asks
      · simp [Incident.asks, Incident.command?, asks] at silent
  | aside life happened gone =>
    have before := gone ((severed_concat_of_quiet rfl).mp severed)
    cases happened with
    | delivered taken => exact (connected_of_deliver taken).1.trans before
    | stirred stir => exact Bool.eq_false_iff.mpr fun there => by simp [Stir.connected_of_apply there] at before

end Loopback

end BrokerSession
