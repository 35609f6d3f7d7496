import BrokerSession.Proofs.Loopback.Deliveries
import Mathlib.Logic.Relation

/-!
# Starts that are refused

A start of the loop that does not succeed should leave everything where it was, so that the loop can be started later
and nothing is lost. It does so where a failure is configured for it. But an engine that nobody listens to gives its
mailbox away before it finds that it cannot start: what waited there is lost, what is emitted later is lost too, and no
start will succeed any more, whoever listens then.

As long as the mailbox is there it makes no difference whether somebody listens. So an engine that nobody listens to does
what it would have done with a listener, and what was delivered, and behind it what waits, is what was emitted.

## Main definitions

* `Loopback.listened` - the engine as if somebody listened to it
* `Loopback.Ledger` - an engine with what it has emitted and what its loops have delivered
* `Loopback.Ledger.Step` - what can happen to it
* `Loopback.Ledger.Starts` - a start of the loop, with its answer
* `Loopback.Ledger.Recovers` - whether everything that is emitted can still be delivered

## Main results

* `Loopback.finish_listened` - an engine that keeps its mailbox answers as if somebody listened to it
* `Loopback.Ledger.Kept.step` - every step keeps the mail in order, as long as the mailbox is there
* `Loopback.Ledger.exists_start_of_lost` - the mailbox is lost by a start that nobody listens to
* `Loopback.Ledger.mail_of_refused_start` - what a refused start loses
-/

namespace BrokerSession.Loopback

variable {s u : Loopback} {c : Command} {r : Reply} {reports : List Report}

/-! ## With or without a listener -/

/-- The engine as if somebody listened to it. -/
def listened (s : Loopback) : Loopback := { s with attached := true }

theorem listened_send (s : Loopback) (m : Mail) : (s.send m).listened = s.listened.send m := by
  unfold send
  rw [apply_ite listened]
  rfl

theorem listened_emit (s : Loopback) (event : EngineEvent) : (s.emit event).listened = s.listened.emit event :=
  listened_send s (.event event)

theorem listened_call (s : Loopback) (c : Command) : (s.call c).listened = s.listened.call c := by
  cases c with
  | stopLoop | destroy =>
    simp only [call]
    rw [apply_ite listened, listened_send]
    rfl
  | _ => rfl

theorem deliver_listened (taken : s.deliver = some (reports, u)) :
    s.listened.deliver = some (reports, u.listened) := by
  unfold deliver at taken
  split at taken
  · rename_i running mail
    cases taken
    simp [deliver, listened, running, mail]
  · rename_i running mail
    cases taken
    simp [deliver, listened, running, mail]
  · cases taken

theorem listened_apply (stir : Stir) (s : Loopback) : (stir.apply s).listened = stir.apply s.listened := by
  cases stir with
  | inject event => exact listened_emit s event
  | drop code => exact listened_emit _ _

theorem listened_publish (s : Loopback) (topic : String) (payload : ByteArray) (qos : Qos) :
    s.listened.publish topic payload qos =
      ((s.publish topic payload qos).1, (s.publish topic payload qos).2.listened) := by
  unfold publish
  dsimp only
  rw [delivery?_emit, delivery?_emit]
  have routed (v : Loopback) (id : MessageId) :
      delivery? { v with lastId := id } topic qos = v.delivery? topic qos := rfl
  rw [routed s, routed s.listened, show s.listened.delivery? topic qos = s.delivery? topic qos from rfl]
  cases s.delivery? topic qos <;> simp only [listened_emit] <;> rfl

/-- A command that does not cost the engine its mailbox is carried out as if somebody listened. -/
theorem listened_perform (kept : (s.perform c).2.receiver ≠ .lost) :
    s.listened.perform c = ((s.perform c).1, (s.perform c).2.listened) := by
  have connected {act act' : Reply × Loopback} (same : act' = (act.1, act.2.listened)) :
      s.listened.whenConnected act' = ((s.whenConnected act).1, (s.whenConnected act).2.listened) := by
    unfold whenConnected
    rw [show s.listened.connected = s.connected from rfl, same]
    split <;> rfl
  cases c with
  | connect host port keepAlive =>
    simp only [perform, answerConnect, listened_emit]
    rfl
  | reconnect =>
    simp only [perform, answerConnect]
    rw [show s.listened.endpoint = s.endpoint from rfl]
    split
    · simp only [listened_emit]
      rfl
    · rfl
  | disconnect | subscribe | unsubscribe =>
    refine connected ?_
    simp only [subscribe, unsubscribe, listened_emit]
    rfl
  | publish topic payload qos retain => exact connected (listened_publish s topic payload qos)
  | startLoop =>
    simp only [perform, startLoop] at kept ⊢
    rw [show s.listened.receiver = s.receiver from rfl]
    -- Only a start takes the receiving end, and only a start that nobody listens to loses it.
    cases at_ : s.receiver with
    | held =>
      rw [at_] at kept
      by_cases attached : s.attached = true
      · simp [attached, listened]
      · simp [attached] at kept
    | running | ended | lost => rfl
  | stopLoop | destroy => rfl

theorem listened_collect? (s : Loopback) : s.listened.collect? = s.collect?.map listened := by
  unfold collect?
  rw [show s.listened.receiver = s.receiver from rfl]
  cases s.receiver <;> rfl

/-- An engine that keeps its mailbox answers as if somebody listened to it. -/
theorem finish_listened (done : s.finish c = some (r, u)) (kept : u.receiver ≠ .lost) :
    s.listened.finish c = some (r, u.listened) := by
  have waited (taken : s.collect?.map (·.perform c) = some (r, u)) :
      s.listened.collect?.map (·.perform c) = some (r, u.listened) := by
    obtain ⟨v, collected, eq⟩ := Option.map_eq_some_iff.mp taken
    have kept : (v.perform c).2.receiver ≠ .lost := by rwa [eq]
    rw [listened_collect?, collected, Option.map_some, Option.map_some, listened_perform kept, eq]
  unfold finish at done ⊢
  rw [show s.listened.refusal? (.command c) = s.refusal? (.command c) from rfl]
  cases refused : s.refusal? (.command c) with
  | some status =>
    simp only [refused] at done ⊢
    by_cases letGo : c = .destroy
    · rw [if_pos letGo] at done ⊢
      exact waited done
    · rw [if_neg letGo] at done ⊢
      cases done
      rfl
  | none =>
    simp only [refused] at done ⊢
    by_cases waits : awaitsLoop c = true
    · rw [if_pos waits] at done ⊢
      exact waited done
    · rw [if_neg waits] at done ⊢
      have performed := Option.some.inj done
      have kept : (s.perform c).2.receiver ≠ .lost := by rwa [performed]
      rw [listened_perform kept, performed]

/-! ## What becomes of the mailbox -/

/-- A mailbox that is lost stays lost. -/
theorem lost_of_finish (lost : s.receiver = .lost) (done : s.finish c = some (r, u)) : u.receiver = .lost := by
  have performs {v w : Loopback} {q : Reply} (lost : v.receiver = .lost) (performed : (q, w) = v.perform c) :
      w.receiver = .lost := by
    by_cases starts : c = .startLoop
    · rw [starts] at performed
      simp only [perform, startLoop, lost] at performed
      exact (Prod.mk.inj performed).2 ▸ lost
    · have same := perform_receiver (s := v) starts
      rw [← performed] at same
      exact same.trans lost
  rcases finish_eq_some done with ⟨status, -, -, -, rfl⟩ | ⟨-, -, performed⟩ | ⟨-, -, v, collected, performed⟩
  · exact lost
  · exact performs lost performed
  · obtain ⟨-, rfl⟩ := collect?_eq_some_iff.mp collected
    exact performs (by simp [lost]) performed

/-- It is lost by a start that nobody listens to. -/
theorem unheard_of_finish (kept : s.receiver ≠ .lost) (done : s.finish c = some (r, u)) (lost : u.receiver = .lost) :
    c = .startLoop ∧ s.attached = false ∧ s.refusal? (.command c) = none := by
  by_cases starts : c = .startLoop
  · refine ⟨starts, ?_⟩
    subst starts
    rcases finish_eq_some done with ⟨status, -, -, -, rfl⟩ | ⟨-, unrefused, performed⟩ | ⟨waits, -⟩
    · exact absurd lost kept
    · refine ⟨?_, unrefused⟩
      by_contra attached
      have carries := carries_perform kept (by simpa using attached) .startLoop
      rw [← performed] at carries
      have receiver := carries.receiver
      rw [lost] at receiver
      split at receiver
      · cases receiver
      · exact kept receiver.symm
    · cases waits
  · rcases receiver_of_finish starts done with same | back
    · exact absurd (same.symm.trans lost) kept
    · rw [back] at lost
      cases lost

theorem attached_of_finish (done : s.finish c = some (r, u)) : u.attached = s.attached := by
  rcases finish_eq_some done with ⟨status, -, -, -, rfl⟩ | ⟨-, -, performed⟩ | ⟨-, -, v, collected, performed⟩
  · rfl
  · rw [← (perform_fields s c).1, ← performed]
  · have same : v.attached = s.attached := by
      obtain ⟨-, rfl⟩ := collect?_eq_some_iff.mp collected
      split <;> rfl
    rw [← same, ← (perform_fields v c).1, ← performed]

/-! ## Ledgers -/

/-- What the engine reports when a test stirs it. -/
def Stir.event : Stir → EngineEvent
  | inject event => event
  | drop code => .disconnect code

/-- An engine with the command that waits for its answer, what it has emitted, and what its loops have delivered. -/
structure Ledger where
  emitted : List EngineEvent
  told : List Report
  busy : Option Command
  engine : Loopback

namespace Ledger

/-- An engine that was never used. -/
def fresh (failures : List (String × Status)) (delays : List (String × Nat)) (connectCode : Int) : Ledger :=
  ⟨[], [], none, .fresh failures delays connectCode⟩

/-- Somebody listens from now on. -/
def attach (l : Ledger) : Ledger := { l with engine := Loopback.engine.attach l.engine }

/-- A test says what the engine refuses, how long it takes, and how it answers connects. -/
def configure (l : Ledger) (failures : List (String × Status)) (delays : List (String × Nat)) (connectCode : Int) :
    Ledger :=
  { l with engine := { l.engine with failures, delays, connectCode } }

/-- The loop takes the next piece of mail. -/
inductive Delivers : Ledger → Ledger → Prop
  | mk {l : Ledger} {reports : List Report} {u : Loopback} (taken : l.engine.deliver = some (reports, u)) :
    Delivers l { l with told := l.told ++ reports, engine := u }

/-- What can happen to an engine. Its owner does one thing after another; the loop goes on, and tests stir the engine, at
any time. -/
inductive Step : Ledger → Ledger → Prop
  | configure {l : Ledger} (idle : l.busy = none) (failures : List (String × Status)) (delays : List (String × Nat))
    (connectCode : Int) : Step l (l.configure failures delays connectCode)
  | set {l : Ledger} (idle : l.busy = none) (x : Setting) : Step l { l with engine := (l.engine.set x).2 }
  | attach {l : Ledger} (idle : l.busy = none) : Step l l.attach
  | hear {l : Ledger} (idle : l.busy = none) (c : Command) : Step l { l with busy := some c, engine := l.engine.call c }
  | answer {l : Ledger} {c : Command} {r : Reply} {u : Loopback} (busy : l.busy = some c)
    (done : l.engine.finish c = some (r, u)) :
    Step l { l with
      emitted := l.emitted ++ if l.engine.carriesOut c r then l.engine.sent c r else []
      busy := none
      engine := u }
  | deliver {l m : Ledger} (delivers : l.Delivers m) : Step l m
  | stir {l : Ledger} (stir : Stir) :
    Step l { l with emitted := l.emitted ++ [stir.event], engine := stir.apply l.engine }

/-- What can become of an engine. -/
abbrev Steps : Ledger → Ledger → Prop := Relation.ReflTransGen Step

/-- Whether an engine can have come so far since it was new. -/
def Reached (l : Ledger) : Prop := ∃ failures delays connectCode, (fresh failures delays connectCode).Steps l

/-- The loop of an engine is asked to start, and this is answered. -/
structure Starts (l : Ledger) (r : Reply) (l' : Ledger) : Prop where
  idle : l.busy = none
  answered : ∃ u, (l.engine.call .startLoop).finish .startLoop = some (r, u) ∧ l' = { l with engine := u }

/-- Whether everything can still be delivered: once somebody listens, and whatever happens then, a start that no failure
is configured for succeeds, and its loop delivers, until the mailbox is empty, the rest of what was emitted. -/
def Recovers (l : Ledger) : Prop :=
  ∀ m, l.attach.Steps m → m.busy = none → m.engine.refusal? (.command .startLoop) = none →
    ∃ m' w, m.Starts (.ofStatus .success) m' ∧ Relation.ReflTransGen Delivers m' w ∧ w.engine.mailbox = [] ∧
      w.told = m.emitted.map .event

variable {l l' m : Ledger}

/-! ## The mail is kept in order -/

/-- As long as the mailbox is there, the engine keeps to an account of what it has emitted. -/
def Kept (l : Ledger) : Prop :=
  l.engine.receiver ≠ .lost → ∃ new a, a.emitted = l.emitted ∧ Keeps new a l.told l.busy l.engine.listened

/-- A mailbox that is lost stays lost. -/
theorem Step.lost (step : l.Step l') (lost : l.engine.receiver = .lost) : l'.engine.receiver = .lost := by
  cases step with
  | configure | set | attach => exact lost
  | hear idle c => exact (call_receiver _ c).trans lost
  | answer busy done => exact lost_of_finish lost done
  | deliver delivers =>
    obtain ⟨taken⟩ := delivers
    simp [Loopback.deliver, lost] at taken
  | stir stir => exact (stir.apply_receiver _).trans lost

/-- What an answered command emits is what the account says. -/
theorem emitted_next {new : Loopback} {a : Account} {told : List Report} (agrees : Agrees new a told s.listened)
    (c : Command) (r : Reply) :
    (a.next new (.answered c r)).emitted = a.emitted ++ if s.carriesOut c r then s.sent c r else [] := by
  have willing : new.carriesOut c r = s.carriesOut c r := by
    rw [carriesOut, ← agrees.refusal?]
    rfl
  have sent : ({ new with subscriptions := a.subscriptions } : Loopback).sent c r = s.sent c r :=
    sent_congr (s := { new with subscriptions := a.subscriptions }) (u := s) agrees.connectCode.symm
      agrees.subscriptions.symm c r
  rw [Account.next, willing]
  split
  · rw [Account.carryOut, sent]
  · simp

/-- Every step keeps the mail in order. -/
theorem Kept.step (h : l.Kept) (step : l.Step l') : l'.Kept := by
  intro kept
  -- The mailbox was there before, so there is an account of the engine up to now.
  obtain ⟨new, a, emitted, keeps⟩ := h (fun lost => kept (step.lost lost))
  cases step with
  | configure idle failures delays connectCode =>
    rw [idle] at keeps
    obtain ⟨unmarked, unended⟩ := keeps.stage.of_free not_halts_none
    refine ⟨{ new with failures, delays, connectCode }, a, emitted, ?_⟩
    exact { keeps with
      failures := rfl
      connectCode := rfl
      stage := .unsent unmarked unended fun halts => absurd (idle ▸ halts) not_halts_none }
  | set idle x => exact ⟨new, a, emitted, { keeps with stage := keeps.stage.congr rfl rfl }⟩
  | attach idle => exact ⟨new, a, emitted, keeps⟩
  | hear idle c =>
    rw [idle] at keeps
    have heard := keeps.hear c
    rw [← listened_call] at heard
    exact ⟨new, { a with owed := a.emitted }, emitted, heard⟩
  | @answer c r u busy done =>
    rw [busy] at keeps
    refine ⟨new, _, ?_, keeps.answer (finish_listened done kept)⟩
    rw [emitted_next keeps.toAgrees, emitted]
  | deliver delivers =>
    obtain ⟨taken⟩ := delivers
    exact ⟨new, a, emitted, keeps.deliver (deliver_listened taken)⟩
  | stir stir =>
    refine ⟨new, { a with emitted := a.emitted ++ [stir.event] }, by rw [emitted], ?_⟩
    rw [listened_apply]
    cases stir with
    | inject event => exact keeps.emit event
    | drop code =>
      have parted : Keeps new a l.told l.busy { l.engine.listened with connected := false } :=
        { keeps with stage := keeps.stage.congr rfl rfl }
      exact parted.emit (.disconnect code)

theorem Kept.steps (h : l.Kept) (steps : l.Steps l') : l'.Kept := by
  induction steps with
  | refl => exact h
  | tail _ step ih => exact ih.step step

theorem Reached.kept (reached : l.Reached) : l.Kept := by
  obtain ⟨failures, delays, connectCode, steps⟩ := reached
  refine Kept.steps (fun _ => ?_) steps
  let new := (Loopback.fresh failures delays connectCode).listened
  have begun : Keeps new _ [] none new := .begin rfl rfl rfl
  exact ⟨new, _, rfl, begun⟩

/-! ## How the mailbox is lost -/

/-- If the mailbox is lost, a start was carried out while nobody listened. -/
theorem exists_start_of_lost (reached : l.Reached) (lost : l.engine.receiver = .lost) :
    ∃ v : Ledger, v.Reached ∧ v.busy = some .startLoop ∧ v.engine.attached = false ∧
      v.engine.refusal? (.command .startLoop) = none ∧ v.Steps l := by
  obtain ⟨failures, delays, connectCode, steps⟩ := reached
  induction steps with
  | refl => cases lost
  | @tail m l early step ih =>
    by_cases before : m.engine.receiver = .lost
    · obtain ⟨v, reached, busy, unheard, unrefused, later⟩ := ih before
      exact ⟨v, reached, busy, unheard, unrefused, later.tail step⟩
    · -- Only an answer to a start can have done it.
      have answered : m.busy = some .startLoop ∧ m.engine.attached = false ∧
          m.engine.refusal? (.command .startLoop) = none := by
        cases step with
        | configure | set | attach => exact absurd lost before
        | hear idle c => exact absurd ((call_receiver _ c).symm.trans lost) before
        | answer busy done =>
          obtain ⟨rfl, unheard, unrefused⟩ := unheard_of_finish before done lost
          exact ⟨busy, unheard, unrefused⟩
        | deliver delivers =>
          obtain ⟨taken⟩ := delivers
          unfold Loopback.deliver at taken
          split at taken <;> cases taken
          · exact absurd lost before
          · cases lost
        | stir stir => exact absurd ((stir.apply_receiver _).symm.trans lost) before
      obtain ⟨busy, unheard, unrefused⟩ := answered
      exact ⟨m, ⟨failures, delays, connectCode, early⟩, busy, unheard, unrefused, .single step⟩

/-- An engine that somebody listens to keeps its mailbox. -/
theorem Step.listens (step : l.Step l') (attached : l.engine.attached = true) (kept : l.engine.receiver ≠ .lost) :
    l'.engine.attached = true ∧ l'.engine.receiver ≠ .lost := by
  cases step with
  | configure | set => exact ⟨attached, kept⟩
  | attach => exact ⟨rfl, kept⟩
  | hear idle c => exact ⟨(call_fields _ c).1.2.1.trans attached, by simpa using kept⟩
  | answer busy done =>
    refine ⟨(attached_of_finish done).trans attached, fun lost => ?_⟩
    obtain ⟨-, unheard, -⟩ := unheard_of_finish kept done lost
    simp [attached] at unheard
  | deliver delivers =>
    obtain ⟨taken⟩ := delivers
    unfold Loopback.deliver at taken
    split at taken <;> cases taken
    · exact ⟨attached, kept⟩
    · exact ⟨attached, nofun⟩
  | stir stir =>
    refine ⟨?_, by simpa using kept⟩
    cases stir <;> simpa [Stir.apply, Loopback.inject, dropConnection] using attached

theorem listens_of_steps (steps : l.Steps l') (attached : l.engine.attached = true)
    (kept : l.engine.receiver ≠ .lost) : l'.engine.attached = true ∧ l'.engine.receiver ≠ .lost := by
  induction steps with
  | refl => exact ⟨attached, kept⟩
  | tail _ step ih => exact step.listens ih.1 ih.2

/-! ## Starts -/

/-- What a start is answered with, and what becomes of the mailbox. -/
theorem Starts.cases (start : l.Starts r l') :
    (∃ status, l.engine.refusal? (.command .startLoop) = some status ∧ r = .ofStatus status ∧
      l'.engine = l.engine.record (.command .startLoop)) ∨
    (l.engine.refusal? (.command .startLoop) = none ∧
      (r, l'.engine) = (l.engine.record (.command .startLoop)).startLoop) := by
  obtain ⟨-, u, answered, rfl⟩ := start
  rcases finish_eq_some answered with ⟨status, refused, -, rfl, rfl⟩ | ⟨-, unrefused, performed⟩ | ⟨waits, -⟩
  · exact .inl ⟨status, refused, rfl, rfl⟩
  · exact .inr ⟨unrefused, performed⟩
  · cases waits

/-- A start that is neither configured to fail nor carried out finds the mailbox lost, or loses it. -/
theorem Starts.failed (start : l.Starts r l') (fails : r.status ≠ .success)
    (unrefused : l.engine.refusal? (.command .startLoop) = none) :
    l'.engine.receiver = .lost ∧ (l.engine.receiver = .lost → l'.engine.mailbox = l.engine.mailbox) := by
  rcases start.cases with ⟨status, refused, -⟩ | ⟨-, performed⟩
  · rw [unrefused] at refused
    cases refused
  · unfold startLoop at performed
    rw [show (l.engine.record (.command .startLoop)).receiver = l.engine.receiver from rfl] at performed
    cases at_ : l.engine.receiver with
    | lost =>
      simp only [at_, Prod.mk.injEq] at performed
      rw [performed.2]
      exact ⟨at_, fun _ => rfl⟩
    | running | ended =>
      simp only [at_, Prod.mk.injEq] at performed
      exact absurd (performed.1 ▸ rfl) fails
    | held =>
      simp only [at_] at performed
      split at performed <;> simp only [Prod.mk.injEq] at performed
      · exact absurd (performed.1 ▸ rfl) fails
      · rw [performed.2]
        exact ⟨rfl, nofun⟩

/-- A start can always be answered. -/
theorem exists_starts (idle : l.busy = none) : ∃ r l', l.Starts r l' := by
  have answered : ∃ q, (l.engine.call .startLoop).finish .startLoop = some q := by
    unfold finish
    split
    · exact ⟨_, rfl⟩
    · exact ⟨_, rfl⟩
  obtain ⟨⟨r, u⟩, answered⟩ := answered
  exact ⟨r, { l with engine := u }, idle, u, answered, rfl⟩

/-- A start takes two steps, and emits nothing. -/
theorem Starts.steps (start : l.Starts r l') : l.Steps l' := by
  obtain ⟨idle, u, answered, rfl⟩ := start
  have heard : l.Step { l with busy := some .startLoop, engine := l.engine.call .startLoop } := .hear idle .startLoop
  have done : Step { l with busy := some .startLoop, engine := l.engine.call .startLoop }
      { l with emitted := l.emitted ++ if (l.engine.call .startLoop).carriesOut .startLoop r then [] else []
               busy := none, engine := u } := .answer rfl answered
  rw [ite_self, List.append_nil, ← idle] at done
  exact (Relation.ReflTransGen.single heard).tail done

/-- A loop that comes to no marker delivers everything that waits. -/
theorem exists_drained (running : l.engine.receiver = .running) (unmarked : l.engine.stops = 0) :
    ∃ w, Relation.ReflTransGen Delivers l w ∧ w.engine.mailbox = [] ∧
      w.told = l.told ++ l.engine.events.map .event := by
  obtain ⟨emitted, told, busy, engine⟩ := l
  obtain ⟨_, _, _, _, _, _, _, _, _, receiver, mailbox⟩ := engine
  obtain rfl : receiver = .running := running
  induction mailbox generalizing told with
  | nil => exact ⟨_, .refl, rfl, (List.append_nil _).symm⟩
  | cons mail rest ih =>
    cases mail with
    | stop => simp [stops] at unmarked
    | event event =>
      have unmarked : rest.count .stop = 0 := by simpa [stops] using unmarked
      obtain ⟨w, delivers, empty, all⟩ := ih (told ++ [.event event]) unmarked
      refine ⟨w, .head ⟨rfl⟩ delivers, empty, ?_⟩
      rw [all]
      simp [Loopback.events, Mail.event?]

/-- Nobody waits for the loop of an idle engine, so there is no stop marker, and no loop that has come to one. -/
theorem Kept.of_idle (h : l.Kept) (kept : l.engine.receiver ≠ .lost) (idle : l.busy = none) :
    l.told ++ l.engine.events.map .event = l.emitted.map .event ∧ l.engine.stops = 0 ∧ l.engine.receiver ≠ .ended := by
  obtain ⟨new, a, emitted, keeps⟩ := h kept
  rw [idle] at keeps
  exact ⟨emitted ▸ keeps.events, keeps.stage.of_free not_halts_none⟩

/-- An engine that has its mailbox, and that somebody listens to, starts its loop and loses nothing. -/
theorem Kept.starts (h : l.Kept) (attached : l.engine.attached = true) (kept : l.engine.receiver ≠ .lost)
    (idle : l.busy = none) (unrefused : l.engine.refusal? (.command .startLoop) = none) :
    ∃ l' w, l.Starts (.ofStatus .success) l' ∧ Relation.ReflTransGen Delivers l' w ∧ w.engine.mailbox = [] ∧
      w.told = l.emitted.map .event := by
  obtain ⟨r, l', start⟩ := exists_starts idle
  have same : l'.emitted = l.emitted ∧ l'.busy = none := by
    obtain ⟨-, u, -, rfl⟩ := start
    exact ⟨rfl, idle⟩
  -- With the receiving end at hand and somebody listening, nothing is left that could refuse the start.
  have started : r = .ofStatus .success ∧ l'.engine.receiver = .running := by
    rcases start.cases with ⟨status, refused, -⟩ | ⟨-, performed⟩
    · rw [unrefused] at refused
      cases refused
    · obtain ⟨-, -, unended⟩ := h.of_idle kept idle
      unfold startLoop at performed
      rw [show (l.engine.record (.command .startLoop)).receiver = l.engine.receiver from rfl,
        show (l.engine.record (.command .startLoop)).attached = true from attached] at performed
      cases at_ : l.engine.receiver with
      | held =>
        simp only [at_, if_true, Prod.mk.injEq] at performed
        exact ⟨performed.1, performed.2 ▸ rfl⟩
      | running =>
        simp only [at_, Prod.mk.injEq] at performed
        exact ⟨performed.1, performed.2 ▸ at_⟩
      | ended => exact absurd at_ unended
      | lost => exact absurd at_ kept
  obtain ⟨rfl, running⟩ := started
  obtain ⟨events, unmarked, -⟩ := (h.steps start.steps).of_idle (by simp [running]) same.2
  obtain ⟨w, delivers, empty, all⟩ := exists_drained running unmarked
  exact ⟨l', w, start, delivers, empty, by rw [all, events, same.1]⟩

/-- Without its mailbox the engine cannot be started any more. -/
theorem not_recovers_of_lost (lost : l.engine.receiver = .lost) (idle : l.busy = none) : ¬ l.Recovers := by
  intro recovers
  -- All failures are taken back, and somebody listens; the start fails nevertheless.
  have rests : l.attach.busy = none := idle
  obtain ⟨m, w, start, -⟩ := recovers (l.attach.configure [] [] 0) (.single (.configure rests [] [] 0)) rests rfl
  rcases start.cases with ⟨status, refused, -⟩ | ⟨-, performed⟩
  · cases refused
  · unfold startLoop at performed
    rw [show ((l.attach.configure [] [] 0).engine.record (.command .startLoop)).receiver = .lost from lost] at performed
    cases (Prod.mk.inj performed).1

/-- A refused start. It leaves the mailbox, and who has its receiving end, exactly if a failure is configured for it or
the receiving end was lost before. Everything can still be delivered exactly if a failure is configured for it and
nothing was lost before; otherwise no start will succeed any more. And nothing was lost before unless a start was carried
out while nobody listened. -/
theorem mail_of_refused_start (reached : l.Reached) (start : l.Starts r l') (fails : r.status ≠ .success) :
    ((l'.engine.mailbox = l.engine.mailbox ∧ l'.engine.receiver = l.engine.receiver) ↔
      l.engine.refusal? (.command .startLoop) ≠ none ∨ l.engine.receiver = .lost) ∧
    (l'.Recovers ↔ l.engine.refusal? (.command .startLoop) ≠ none ∧ l.engine.receiver ≠ .lost) ∧
    (l.engine.receiver = .lost →
      ∃ v : Ledger, v.Reached ∧ v.busy = some .startLoop ∧ v.engine.attached = false ∧
        v.engine.refusal? (.command .startLoop) = none ∧ v.Steps l) := by
  have idle : l'.busy = none := by
    obtain ⟨idle, u, -, rfl⟩ := start
    exact idle
  -- A start that fails without a configured failure has lost the mailbox, or found it lost.
  by_cases refused : l.engine.refusal? (.command .startLoop) = none
  · obtain ⟨lost, same⟩ := start.failed fails refused
    refine ⟨?_, ?_, exists_start_of_lost reached⟩
    · simp only [refused, ne_eq, not_true_eq_false, false_or, lost]
      exact ⟨fun unchanged => unchanged.2.symm, fun before => ⟨same before, before.symm⟩⟩
    · simp only [refused, ne_eq, not_true_eq_false, false_and, iff_false]
      exact not_recovers_of_lost lost idle
  · have engine : l'.engine = l.engine.record (.command .startLoop) := by
      rcases start.cases with ⟨status, -, -, engine⟩ | ⟨unrefused, -⟩
      · exact engine
      · exact absurd unrefused refused
    have receiver : l'.engine.receiver = l.engine.receiver := by rw [engine]; rfl
    refine ⟨?_, ?_, exists_start_of_lost reached⟩
    · refine iff_of_true ⟨?_, receiver⟩ (.inl refused)
      rw [engine]
      rfl
    · refine ⟨fun recovers => ⟨refused, fun lost => ?_⟩, fun ⟨_, kept⟩ => ?_⟩
      · exact not_recovers_of_lost (receiver.trans lost) idle recovers
      · intro m steps rests unrefused
        have attached : l'.attach.engine.attached = true := rfl
        obtain ⟨listens, there⟩ := listens_of_steps steps attached (receiver ▸ kept)
        have kept : m.Kept := ((reached.kept.steps start.steps).step (.attach idle)).steps steps
        exact kept.starts listens there rests unrefused

/-- An engine that nobody listens to, with some failures configured, after its first connect. -/
def joined (failures : List (String × Status)) : Ledger where
  emitted := [.connect 0]
  told := []
  busy := none
  engine := { Loopback.fresh failures [] 0 with
    calls := [.command (.connect "broker" 1883 60)]
    connected := true
    endpoint := some ("broker", 1883, 60)
    mailbox := [.event (.connect 0)] }

theorem reached_joined {failures : List (String × Status)} (accepts : failures.lookup "connect" = none) :
    (joined failures).Reached := by
  let c : Command := .connect "broker" 1883 60
  let asked : Ledger := ⟨[], [], some c, (Loopback.fresh failures [] 0).call c⟩
  have hears : (fresh failures [] 0).Step asked := .hear rfl c
  have unrefused : asked.engine.refusal? (.command c) = none := accepts
  have done : asked.engine.finish c = some (.ofStatus .success, (joined failures).engine) := by
    rw [finish, unrefused]
    rfl
  have answers := Step.answer (l := asked) rfl done
  rw [carriesOut, unrefused] at answers
  exact ⟨failures, [], 0, (Relation.ReflTransGen.single hears).tail answers⟩

/-- A connect is accepted, and the start that follows it fails as it was told to. Once the failure is taken back and
somebody listens, the loop starts, and the application hears of the connection. -/
theorem mail_of_refused_start_configured :
    ∃ l' m w, (joined [("start_loop", .errno)]).Reached ∧
      (joined [("start_loop", .errno)]).Starts (.ofStatus .errno) l' ∧ Status.errno ≠ .success ∧
      l'.engine.mailbox = [.event (.connect 0)] ∧
      (l'.attach.configure [] [] 0).Starts (.ofStatus .success) m ∧ Relation.ReflTransGen Delivers m w ∧
      w.told = [.event (.connect 0)] := by
  have start : (joined [("start_loop", .errno)]).Starts (.ofStatus .errno) _ := ⟨rfl, _, rfl, rfl⟩
  obtain ⟨unchanged, recovers, -⟩ := mail_of_refused_start (reached_joined rfl) start nofun
  have refused : (joined [("start_loop", .errno)]).engine.refusal? (.command .startLoop) ≠ none := nofun
  obtain ⟨m, w, starts, delivers, -, all⟩ :=
    recovers.mpr ⟨refused, nofun⟩ _ (.single (.configure rfl [] [] 0)) rfl rfl
  exact ⟨_, m, w, reached_joined rfl, start, nofun, (unchanged.mpr (.inl refused)).1, starts, delivers, all⟩

/-- An engine is connected before anybody listens. A start fails then, though no failure is configured, and fails again
when somebody listens: the application never hears of the connection. -/
theorem mail_lost_by_start :
    ∃ l' l'', (joined []).Reached ∧ (joined []).engine.mailbox = [.event (.connect 0)] ∧
      (joined []).Starts (.ofStatus .inval) l' ∧ l'.engine.mailbox = [] ∧
      l'.attach.Starts (.ofStatus .inval) l'' ∧ l''.told = [] ∧ l''.engine.deliver = none :=
  ⟨_, _, reached_joined rfl, rfl, ⟨rfl, _, rfl, rfl⟩, rfl, ⟨rfl, _, rfl, rfl⟩, rfl, rfl⟩

end Ledger

end BrokerSession.Loopback
