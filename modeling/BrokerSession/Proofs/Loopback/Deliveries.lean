import BrokerSession.Proofs.Lives
import BrokerSession.Proofs.Loopback.Replies
import BrokerSession.Proofs.Session.Routing

/-!
# Every event is delivered once, and in order

The receiving end of the mailbox goes to a loop when one is started, and comes back when it is stopped. However often
that happens, and wherever the loop is in between: what was delivered, and behind it what waits, is what was emitted. A
stop marker is in the mailbox only while the command that has sent it waits, and everything that was emitted before it
is delivered before the loop comes to it.

What was emitted is read off the history: a command that was carried out emits what it is answered with, a publish also
what the subscriptions select, and a test emits what it makes up.

## Main definitions

* `Loopback.Account`, `Loopback.account` - what a history says of a loopback engine
* `Loopback.delivered` - what has come out of its loops
* `Loopback.Halts` - a command that waits for the loop to end
* `Loopback.Stage` - how far a stop marker has come
* `Loopback.Agrees`, `Loopback.Keeps` - an engine that is as an account says

## Main results

* `Loopback.carries_perform` - what a command that is carried out emits and changes
* `Loopback.Keeps.hear`, `Loopback.Keeps.answer`, `Loopback.Keeps.deliver`, `Loopback.Keeps.emit` - what happens to an
  engine goes on its account
* `Loopback.Keeps.of_life` - an engine keeps to what its history says
* `Loopback.deliveries_of_life` - nothing is lost, doubled or overtaken, and who stops a loop waits for what was emitted
-/

namespace BrokerSession.Loopback

variable {new s u : Loopback} {h : List (Incident (List Report ⊕ Stir))} {busy : Option Command} {c : Command}
  {r : Reply}

/-! ## What a history says -/

/-- What a command that was carried out emits, given how it was answered. -/
def sent (s : Loopback) (c : Command) (r : Reply) : List EngineEvent :=
  match c with
  | .connect .. | .reconnect => [.connect s.connectCode]
  | .disconnect => [.disconnect 0]
  | .publish topic payload qos _ =>
    .publish r.id.toNat :: (s.delivery? topic qos).toList.map fun level =>
      .message ⟨r.id.toNat, some topic.toUTF8, some payload, level.level, false⟩
  | .subscribe filters qos =>
    [.subscribe r.id.toNat filters.length (List.replicate filters.length (qos.level : Int))]
  | .unsubscribe _ => [.unsubscribe r.id.toNat]
  | _ => []

/-- The subscriptions after a command that was carried out. -/
def regranted (c : Command) (subscriptions : List (String × Qos)) : List (String × Qos) :=
  match c with
  | .subscribe filters qos => filters.foldl (subscribed qos) subscriptions
  | .unsubscribe filter => subscriptions.filter (·.1 != filter)
  | .destroy => []
  | _ => subscriptions

/-- Whether a command was carried out: it was not refused, or cannot be, and it was answered with a success. -/
def carriesOut (s : Loopback) (c : Command) (r : Reply) : Bool :=
  (c == .destroy || (s.refusal? (.command c)).isNone) && r.status.isSuccess

/-- What a history says of a loopback engine. -/
structure Account where
  subscriptions : List (String × Qos)
  /-- Whether a loop was started, and not stopped since. -/
  looping : Bool
  /-- What was emitted, the earliest first. -/
  emitted : List EngineEvent
  /-- What was emitted before the last command. -/
  owed : List EngineEvent

namespace Account

/-- A command was carried out. -/
def carryOut (new : Loopback) (a : Account) (c : Command) (r : Reply) : Account where
  subscriptions := regranted c a.subscriptions
  looping := c == .startLoop || (a.looping && !awaitsLoop c)
  emitted := a.emitted ++ ({ new with subscriptions := a.subscriptions } : Loopback).sent c r
  owed := a.owed

/-- One thing more has happened. -/
def next (new : Loopback) (a : Account) : Incident (List Report ⊕ Stir) → Account
  | .heard _ => { a with owed := a.emitted }
  | .answered c r => if new.carriesOut c r then a.carryOut new c r else a
  | .aside (.inr (.inject event)) => { a with emitted := a.emitted ++ [event] }
  | .aside (.inr (.drop code)) => { a with emitted := a.emitted ++ [.disconnect code] }
  | _ => a

end Account

/-- What the history of an engine that was new in a state says of it. What waited at first counts as emitted. -/
def account (new : Loopback) (h : List (Incident (List Report ⊕ Stir))) : Account :=
  h.foldl (Account.next new) ⟨new.subscriptions, false, new.events, []⟩

/-- What was emitted. -/
def emitted (new : Loopback) (h : List (Incident (List Report ⊕ Stir))) : List EngineEvent := (account new h).emitted

/-- What has come out of the loops in an incident. -/
def delivery : Incident (List Report ⊕ Stir) → List Report
  | .aside (.inl reports) => reports
  | _ => []

/-- What has come out of the loops, the earliest first. -/
def delivered (h : List (Incident (List Report ⊕ Stir))) : List Report := h.flatMap delivery

/-- Whether what waits for its answer is a command that waits for the loop to end. A stop that is refused does not. -/
def Halts (new : Loopback) (busy : Option Command) : Prop :=
  ∃ c, busy = some c ∧ awaitsLoop c = true ∧ (c = .destroy ∨ new.refusal? (.command c) = none)

theorem account_concat (new : Loopback) (h : List (Incident (List Report ⊕ Stir))) (x : Incident (List Report ⊕ Stir)) :
    account new (h ++ [x]) = (account new h).next new x := by
  simp [account]

theorem delivered_concat (h : List (Incident (List Report ⊕ Stir))) (x : Incident (List Report ⊕ Stir)) :
    delivered (h ++ [x]) = delivered h ++ delivery x := by
  simp [delivered]

theorem delivered_concat_of_silent {x : Incident (List Report ⊕ Stir)} (silent : delivery x = []) :
    delivered (h ++ [x]) = delivered h := by
  rw [delivered_concat, silent, List.append_nil]

/-! ## What a command emits -/

@[simp] theorem emit_connectCode (s : Loopback) (event : EngineEvent) : (s.emit event).connectCode = s.connectCode := by
  unfold emit send
  split <;> rfl

/-- What becomes of an engine that carries out a command. -/
structure Carries (s : Loopback) (c : Command) (r : Reply) (u : Loopback) : Prop where
  events : u.events = s.events ++ if r.status.isSuccess then s.sent c r else []
  subscriptions : u.subscriptions = if r.status.isSuccess then regranted c s.subscriptions else s.subscriptions
  stops : u.stops = s.stops
  connectCode : u.connectCode = s.connectCode
  attached : u.attached = s.attached
  receiver : u.receiver = if c = .startLoop ∧ s.receiver = .held then .running else s.receiver

namespace Carries

theorem failed (fails : r.status.isSuccess = false) (other : c ≠ .startLoop) : Carries s c r s where
  events := by simp [fails]
  subscriptions := by simp [fails]
  stops := rfl
  connectCode := rfl
  attached := rfl
  receiver := by simp [other]

/-- A command that says nothing about the loop, and announces what it does with one event. -/
theorem announced {v : Loopback} {event : EngineEvent} (kept : s.receiver ≠ .lost)
    (subscriptions : v.subscriptions = regranted c s.subscriptions)
    (rest : v.mailbox = s.mailbox ∧ v.receiver = s.receiver ∧ v.attached = s.attached ∧ v.connectCode = s.connectCode)
    (success : r.status.isSuccess = true) (sends : s.sent c r = [event]) (other : c ≠ .startLoop) :
    Carries s c r (v.emit event) := by
  obtain ⟨mailbox, receiver, attached, code⟩ := rest
  have before : v.events = s.events := by rw [Loopback.events, Loopback.events, mailbox]
  exact {
    events := by rw [emit_events, receiver, if_neg kept, success, if_pos rfl, sends, before]
    subscriptions := by rw [emit_subscriptions, subscriptions, success, if_pos rfl]
    stops := by rw [emit_stops, Loopback.stops, Loopback.stops, mailbox]
    connectCode := by rw [emit_connectCode, code]
    attached := by rw [emit_attached, attached]
    receiver := by simp [receiver, other] }

theorem publish (kept : s.receiver ≠ .lost) (topic : String) (payload : ByteArray) (qos : Qos) (retain : Bool) :
    Carries s (.publish topic payload qos retain) (s.publish topic payload qos).1 (s.publish topic payload qos).2 := by
  obtain ⟨success, subscriptions, events⟩ := Ready.publish_spec kept topic payload qos
  have others : (s.publish topic payload qos).2.stops = s.stops ∧
      (s.publish topic payload qos).2.connectCode = s.connectCode ∧
      (s.publish topic payload qos).2.attached = s.attached ∧
      (s.publish topic payload qos).2.receiver = s.receiver := by
    simp only [Loopback.publish]
    split <;> exact ⟨by simp; rfl, by simp, by simp, by simp⟩
  obtain ⟨stops, code, attached, receiver⟩ := others
  have success : (s.publish topic payload qos).1.status.isSuccess = true := success
  exact {
    events := by rw [success, if_pos rfl, events]; rfl
    subscriptions := by rw [success, if_pos rfl, subscriptions]; rfl
    stops := stops
    connectCode := code
    attached := attached
    receiver := by simp [receiver] }

end Carries

/-- A command that is carried out emits what it is answered with. -/
theorem carries_perform (kept : s.receiver ≠ .lost) (attached : s.attached = true) (c : Command) :
    Carries s c (s.perform c).1 (s.perform c).2 := by
  -- What needs a connection fails without one, and emits nothing.
  have connected {act : Reply × Loopback} (other : c ≠ .startLoop) (carries : Carries s c act.1 act.2) :
      Carries s c (s.whenConnected act).1 (s.whenConnected act).2 := by
    unfold whenConnected
    split
    · exact carries
    · exact .failed rfl other
  cases c with
  | connect host port keepAlive => exact .announced kept rfl ⟨rfl, rfl, rfl, rfl⟩ rfl rfl (by simp)
  | reconnect =>
    simp only [perform]
    split
    · exact .announced kept rfl ⟨rfl, rfl, rfl, rfl⟩ rfl rfl (by simp)
    · exact .failed rfl (by simp)
  | disconnect => exact connected (by simp) (.announced kept rfl ⟨rfl, rfl, rfl, rfl⟩ rfl rfl (by simp))
  | publish topic payload qos retain => exact connected (by simp) (.publish kept topic payload qos retain)
  | subscribe filters qos => exact connected (by simp) (.announced kept rfl ⟨rfl, rfl, rfl, rfl⟩ rfl rfl (by simp))
  | unsubscribe filter => exact connected (by simp) (.announced kept rfl ⟨rfl, rfl, rfl, rfl⟩ rfl rfl (by simp))
  | startLoop =>
    simp only [perform, startLoop]
    cases at_ : s.receiver with
    | held =>
      rw [if_pos attached]
      exact ⟨(List.append_nil _).symm, rfl, rfl, rfl, rfl, by simp [at_]⟩
    | running | ended => exact ⟨(List.append_nil _).symm, rfl, rfl, rfl, rfl, by simp [at_]⟩
    | lost => exact absurd at_ kept
  | stopLoop => exact ⟨(List.append_nil _).symm, rfl, rfl, rfl, rfl, rfl⟩
  | destroy => exact ⟨(List.append_nil _).symm, rfl, rfl, rfl, rfl, rfl⟩

/-- The commands that are about the loop succeed when they are carried out. -/
theorem isSuccess_perform (kept : s.receiver ≠ .lost) (attached : s.attached = true)
    (loops : c = .startLoop ∨ awaitsLoop c = true) : (s.perform c).1.status.isSuccess = true := by
  cases c with
  | startLoop =>
    simp only [perform, startLoop]
    cases at_ : s.receiver with
    | held => rw [if_pos attached]; rfl
    | running | ended => rfl
    | lost => exact absurd at_ kept
  | stopLoop | destroy => rfl
  | _ => rcases loops with same | waits <;> contradiction

/-- What a command emits depends on what was granted, and on nothing else that changes. -/
theorem sent_congr (code : s.connectCode = u.connectCode) (subscriptions : s.subscriptions = u.subscriptions)
    (c : Command) (r : Reply) : s.sent c r = u.sent c r := by
  have routes (topic : String) (qos : Qos) : s.delivery? topic qos = u.delivery? topic qos := by
    rw [delivery?, delivery?, subscriptions]
  cases c with
  | connect | reconnect => simp [sent, code]
  | publish topic payload qos retain => simp only [sent, routes]
  | _ => rfl

/-- Hearing a command leaves a stop marker if it waits for a loop that runs, and nothing else in the mailbox. -/
theorem call_fields (s : Loopback) (c : Command) :
    ((s.call c).connectCode = s.connectCode ∧ (s.call c).attached = s.attached ∧
      (s.call c).subscriptions = s.subscriptions) ∧
      (s.call c).mailbox = s.mailbox ++
        if awaitsLoop c ∧ (c = .destroy ∨ s.refusal? (.command c) = none) ∧ s.receiver = .running then [.stop]
        else [] := by
  have marked (running : s.receiver = .running) (call : Call) :
      (s.record call).send .stop = { s.record call with mailbox := s.mailbox ++ [.stop] } := by
    simp [send, record, running]
  cases c with
  | stopLoop =>
    by_cases refused : s.refusal? (.command .stopLoop) = none <;> by_cases running : s.receiver = .running <;>
      simp [call, record, refused, running, awaitsLoop, send]
  | destroy =>
    by_cases running : s.receiver = .running <;> simp [call, record, running, awaitsLoop, send]
  | _ => exact ⟨⟨rfl, rfl, rfl⟩, by simp [call, record, awaitsLoop]⟩

/-! ## How far a stop marker has come -/

/-- How far a stop marker has come, by what waits for its answer, what was emitted before and what was delivered. -/
inductive Stage (halting : Prop) (owed : List EngineEvent) (told : List Report) (s : Loopback) : Prop
  /-- There is none. Who waits for the loop to end finds that none runs. -/
  | unsent (unmarked : s.stops = 0) (unended : s.receiver ≠ .ended) (free : halting → s.receiver = .held)
  /-- It waits behind everything that was emitted before. -/
  | waits {front back : List Mail} (halts : halting) (running : s.receiver = .running)
    (mail : s.mailbox = front ++ .stop :: back) (one : s.stops = 1)
    (ahead : told ++ (front.filterMap Mail.event?).map .event = owed.map .event)
  /-- The loop has come to it. -/
  | taken (halts : halting) (ended : s.receiver = .ended) (unmarked : s.stops = 0) (all : owed.map .event <+: told)

namespace Stage

variable {halting : Prop} {owed : List EngineEvent} {told : List Report}

theorem congr (stage : Stage halting owed told s) (mailbox : u.mailbox = s.mailbox)
    (receiver : u.receiver = s.receiver) : Stage halting owed told u := by
  have stops : u.stops = s.stops := by rw [stops, stops, mailbox]
  cases stage with
  | unsent unmarked unended free => exact .unsent (stops ▸ unmarked) (receiver ▸ unended) (receiver ▸ free)
  | waits halts running mail one ahead =>
    exact .waits halts (receiver ▸ running) (mailbox ▸ mail) (stops ▸ one) ahead
  | taken halts ended unmarked all => exact .taken halts (receiver ▸ ended) (stops ▸ unmarked) all

/-- What is emitted waits behind the marker. -/
theorem emit (stage : Stage halting owed told s) (kept : s.receiver ≠ .lost) (event : EngineEvent) :
    Stage halting owed told (s.emit event) := by
  cases stage with
  | unsent unmarked unended free =>
    exact .unsent (by simpa using unmarked) (by simpa using unended) (by simpa using free)
  | @waits front back halts running mail one ahead =>
    have mail : (s.emit event).mailbox = front ++ .stop :: (back ++ [.event event]) := by
      simp [Loopback.emit, send, kept, mail]
    exact .waits halts (by simpa using running) mail (by simpa using one) ahead
  | taken halts ended unmarked all => exact .taken halts (by simpa using ended) (by simpa using unmarked) all

/-- The loop delivers an event, which comes before the marker. -/
theorem deliver {event : EngineEvent} {rest : List Mail} (stage : Stage halting owed told s)
    (running : s.receiver = .running) (mail : s.mailbox = .event event :: rest) :
    Stage halting owed (told ++ [.event event]) { s with mailbox := rest } := by
  have stops : stops { s with mailbox := rest } = s.stops := by simp [stops, mail]
  cases stage with
  | unsent unmarked unended free => exact .unsent (stops.trans unmarked) unended free
  | @waits front back halts _ place one ahead =>
    rw [mail] at place
    cases front with
    | nil => cases place
    | cons first front =>
      rw [List.cons_append] at place
      obtain ⟨rfl, rfl⟩ := List.cons.inj place
      exact .waits halts running rfl (stops.trans one) (by simpa [Mail.event?] using ahead)
  | taken _ ended => simp [running] at ended

/-- The loop comes to the marker, and everything that was emitted before has been delivered. -/
theorem mark {rest : List Mail} (stage : Stage halting owed told s) (running : s.receiver = .running)
    (mail : s.mailbox = .stop :: rest) :
    Stage halting owed told { s with mailbox := rest, receiver := .ended } := by
  have stops : s.stops = stops { s with mailbox := rest, receiver := .ended } + 1 := by simp [stops, mail]
  cases stage with
  | unsent unmarked => omega
  | @waits front back halts _ place one ahead =>
    have unmarked : Loopback.stops { s with mailbox := rest, receiver := .ended } = 0 := by omega
    rw [mail] at place
    cases front with
    | nil =>
      have all : told = owed.map .event := by simpa using ahead
      exact .taken halts rfl unmarked (all ▸ List.prefix_rfl)
    | cons first front =>
      -- There would be two markers.
      rw [List.cons_append] at place
      obtain ⟨rfl, rfl⟩ := List.cons.inj place
      simp [Loopback.stops] at unmarked
  | taken _ ended => simp [running] at ended

/-- Without a command that waits for the loop there is no marker, and no loop that has come to one. -/
theorem of_free (stage : Stage halting owed told s) (free : ¬ halting) :
    s.stops = 0 ∧ s.receiver ≠ .ended := by
  cases stage with
  | unsent unmarked unended _ => exact ⟨unmarked, unended⟩
  | waits halts | taken halts => exact absurd halts free

/-- Where no loop runs there is no marker either, and a loop that has come to one has delivered what was owed. -/
theorem of_still (stage : Stage halting owed told s) (halts : halting) (still : s.receiver ≠ .running) :
    s.stops = 0 ∧ (s.receiver = .held ∨ s.receiver = .ended ∧ owed.map .event <+: told) := by
  cases stage with
  | unsent unmarked unended free => exact ⟨unmarked, .inl (free halts)⟩
  | waits _ running => exact absurd running still
  | taken _ ended unmarked all => exact ⟨unmarked, .inr ⟨ended, all⟩⟩

end Stage

/-! ## An engine and an account of it -/

/-- What an engine has in common with an account of its history, and with what has come out of its loops. -/
structure Agrees (new : Loopback) (a : Account) (told : List Report) (s : Loopback) : Prop where
  failures : s.failures = new.failures
  connectCode : s.connectCode = new.connectCode
  attached : s.attached = true
  kept : s.receiver ≠ .lost
  subscriptions : s.subscriptions = a.subscriptions
  /-- What was delivered, and behind it what waits, is what was emitted. -/
  events : told ++ s.events.map .event = a.emitted.map .event

/-- An engine keeps to an account: a loop is there if one was started, and a stop marker stands where it should. -/
structure Keeps (new : Loopback) (a : Account) (told : List Report) (busy : Option Command) (s : Loopback) : Prop
    extends Agrees new a told s where
  looping : a.looping = true ↔ s.receiver = .running ∨ s.receiver = .ended
  stage : Stage (Halts new busy) a.owed told s

section Steps

variable {a : Account} {told : List Report}

theorem not_halts_none : ¬ Halts new none := by
  simp [Halts]

theorem halts_some_iff :
    Halts new (some c) ↔ awaitsLoop c = true ∧ (c = .destroy ∨ new.refusal? (.command c) = none) := by
  simp [Halts]

theorem Agrees.refusal? (agrees : Agrees new a told s) (call : Call) : s.refusal? call = new.refusal? call := by
  rw [Loopback.refusal?, Loopback.refusal?, agrees.failures]

theorem Agrees.carriesOut (agrees : Agrees new a told s)
    (willing : c = .destroy ∨ s.refusal? (.command c) = none) (r : Reply) :
    new.carriesOut c r = r.status.isSuccess := by
  rw [agrees.refusal?] at willing
  rcases willing with rfl | unrefused
  · rfl
  · simp [Loopback.carriesOut, unrefused]

/-- What a command emits when it is carried out goes on the account. -/
theorem Agrees.carried (agrees : Agrees new a told s) (willing : c = .destroy ∨ s.refusal? (.command c) = none)
    (carries : Carries s c r u) (failures : u.failures = s.failures) :
    Agrees new (a.next new (.answered c r)) told u := by
  have carriedOut := agrees.carriesOut willing r
  have sent : ({ new with subscriptions := a.subscriptions } : Loopback).sent c r = s.sent c r :=
    sent_congr (s := { new with subscriptions := a.subscriptions }) agrees.connectCode.symm agrees.subscriptions.symm
      c r
  have kept : u.receiver ≠ .lost := by
    rw [carries.receiver]
    split
    · nofun
    · exact agrees.kept
  have subscriptions : u.subscriptions = (a.next new (.answered c r)).subscriptions := by
    rw [carries.subscriptions, Account.next, carriedOut, agrees.subscriptions]
    split <;> rfl
  have events : told ++ u.events.map .event = (a.next new (.answered c r)).emitted.map .event := by
    rw [carries.events, Account.next, carriedOut, List.map_append, ← List.append_assoc, agrees.events]
    split
    · rw [Account.carryOut, sent, List.map_append]
    · simp
  exact ⟨failures.trans agrees.failures, carries.connectCode.trans agrees.connectCode,
    carries.attached.trans agrees.attached, kept, subscriptions, events⟩

/-- A command was carried out when no stop marker was there any more. -/
theorem Agrees.settled (agrees : Agrees new a told s) (willing : c = .destroy ∨ s.refusal? (.command c) = none)
    (done : (r, u) = s.perform c) (unmarked : s.stops = 0) (unended : s.receiver ≠ .ended)
    (looping : a.looping = true ∧ awaitsLoop c = false ↔ s.receiver = .running) :
    Keeps new (a.next new (.answered c r)) told none u := by
  have carries : Carries s c (r, u).1 (r, u).2 := done ▸ carries_perform agrees.kept agrees.attached c
  have failures : (r, u).2.failures = s.failures := done ▸ perform_failures s c
  have runs : u.receiver = .running ↔ c = .startLoop ∨ s.receiver = .running := by
    rw [carries.receiver]
    have kept := agrees.kept
    cases at_ : s.receiver <;> simp_all
  have unended' : u.receiver ≠ .ended := by
    rw [carries.receiver]
    split
    · nofun
    · exact unended
  refine { agrees.carried willing carries failures with
    looping := ?_
    stage := .unsent (carries.stops.trans unmarked) unended' (absurd · not_halts_none) }
  simp only [unended', or_false, runs, ← looping]
  by_cases success : r.status.isSuccess = true
  · simp [Account.next, agrees.carriesOut willing, success, Account.carryOut]
  · -- What fails is not about the loop.
    have other : ¬ (c = .startLoop ∨ awaitsLoop c = true) := by
      intro loops
      have succeeds : (r, u).1.status.isSuccess = true := done ▸ isSuccess_perform agrees.kept agrees.attached loops
      exact success succeeds
    obtain ⟨unstarted, unawaited⟩ := not_or.mp other
    simp [Account.next, agrees.carriesOut willing, success, unstarted, unawaited]

namespace Keeps

theorem begin (attached : new.attached = true) (held : new.receiver = .held) (unmarked : new.stops = 0) :
    Keeps new (account new []) [] none new where
  failures := rfl
  connectCode := rfl
  attached := attached
  kept := by simp [held]
  subscriptions := rfl
  events := rfl
  looping := by simp [held, account]
  stage := .unsent unmarked (by simp [held]) (fun _ => held)

/-- A command that waits for the loop to end leaves its marker behind everything that was emitted. -/
theorem hear (keeps : Keeps new a told none s) (c : Command) :
    Keeps new { a with owed := a.emitted } told (some c) (s.call c) := by
  obtain ⟨⟨code, attached, subscriptions⟩, mailbox⟩ := call_fields s c
  -- Nobody was waiting for the loop, so there is no marker yet.
  obtain ⟨unmarked, unended⟩ := keeps.stage.of_free not_halts_none
  have stage : Stage (Halts new (some c)) a.emitted told (s.call c) := by
    split at mailbox
    · rename_i waits
      obtain ⟨awaits, willing, running⟩ := waits
      rw [keeps.refusal?] at willing
      refine .waits (halts_some_iff.mpr ⟨awaits, willing⟩) (by simpa using running) mailbox ?_ keeps.events
      rw [stops, mailbox, List.count_append, ← stops, unmarked]
      rfl
    · rename_i unsent
      rw [List.append_nil] at mailbox
      refine .unsent (by rw [stops, mailbox, ← stops, unmarked]) (by simpa using unended) ?_
      rw [halts_some_iff, call_receiver]
      rintro ⟨awaits, willing⟩
      have kept := keeps.kept
      have still : s.receiver ≠ .running := by
        intro running
        exact unsent ⟨awaits, keeps.refusal? _ ▸ willing, running⟩
      cases at_ : s.receiver <;> simp_all
  exact {
    failures := (call_failures s c).trans keeps.failures
    connectCode := code.trans keeps.connectCode
    attached := attached.trans keeps.attached
    kept := by simpa using keeps.kept
    subscriptions := subscriptions.trans keeps.subscriptions
    events := by rw [call_events]; exact keeps.events
    looping := by rw [call_receiver]; exact keeps.looping
    stage := stage }

/-- When a command is answered no marker is there any more. -/
theorem answer (keeps : Keeps new a told (some c) s) (done : s.finish c = some (r, u)) :
    Keeps new (a.next new (.answered c r)) told none u := by
  rcases finish_eq_some done with ⟨status, refused, other, rfl, rfl⟩ | ⟨prompt, willing, performed⟩ |
      ⟨awaits, willing, v, collected, performed⟩
  · -- A refusal changes nothing, and who is refused has sent no marker.
    have refused' := keeps.refusal? (.command c) ▸ refused
    have free : ¬ Halts new (some c) := by
      simp [halts_some_iff, other, refused']
    obtain ⟨unmarked, unended⟩ := keeps.stage.of_free free
    have unchanged : a.next new (.answered c (.ofStatus status)) = a := by
      simp [Account.next, carriesOut, other, refused']
    rw [unchanged]
    exact { keeps.toAgrees with
      looping := keeps.looping
      stage := .unsent unmarked unended (absurd · not_halts_none) }
  · have free : ¬ Halts new (some c) := by
      simp [halts_some_iff, prompt]
    obtain ⟨unmarked, unended⟩ := keeps.stage.of_free free
    refine keeps.settled (.inr willing) performed unmarked unended ?_
    simp [prompt, keeps.looping, unended]
  · have halts : Halts new (some c) := halts_some_iff.mpr ⟨awaits, keeps.refusal? _ ▸ willing⟩
    obtain ⟨still, back⟩ := collect?_eq_some_iff.mp collected
    obtain ⟨unmarked, -⟩ := keeps.stage.of_still halts still
    have kept := keeps.kept
    -- The engine that carries out the command has its mailbox back.
    have held : v.receiver = .held := by
      cases at_ : s.receiver <;> simp_all
    have agrees : Agrees new a told v := by
      rw [back]
      split
      · exact ⟨keeps.failures, keeps.connectCode, keeps.attached, nofun, keeps.subscriptions, keeps.events⟩
      · exact keeps.toAgrees
    have willing : c = .destroy ∨ v.refusal? (.command c) = none := by
      rwa [agrees.refusal?, ← keeps.refusal?]
    have unmarked : v.stops = 0 := by
      rw [back]
      split <;> exact unmarked
    exact agrees.settled willing performed unmarked (by simp [held]) (by simp [awaits, held])

/-- A loop that was there when a command asked for its end has delivered what was owed by the time it is answered. -/
theorem owed_of_halted (keeps : Keeps new a told (some c) s) (halts : Halts new (some c))
    (done : s.finish c = some (r, u)) (looping : a.looping = true) : a.owed.map .event <+: told := by
  have still : s.receiver ≠ .running := by
    obtain ⟨awaits, willing⟩ := halts_some_iff.mp halts
    rcases finish_eq_some done with ⟨status, refused, other, -⟩ | ⟨prompt, -⟩ | ⟨-, -, v, collected, -⟩
    · rw [keeps.refusal?] at refused
      simp [other, refused] at willing
    · simp [prompt] at awaits
    · exact (collect?_eq_some_iff.mp collected).1
  obtain ⟨-, back | ⟨-, all⟩⟩ := keeps.stage.of_still halts still
  · simpa [back] using keeps.looping.mp looping
  · exact all

/-- The loop takes what waits first: an event, which it delivers, or the marker. -/
theorem deliver {reports : List Report} (keeps : Keeps new a told busy s) (taken : s.deliver = some (reports, u)) :
    Keeps new a (told ++ reports) busy u := by
  unfold Loopback.deliver at taken
  split at taken
  · rename_i event rest running mail
    obtain ⟨rfl, rfl⟩ := Prod.mk.inj (Option.some.inj taken)
    have events := keeps.events
    rw [Loopback.events, mail] at events
    exact {
      keeps with
      events := by simpa [Loopback.events, Mail.event?] using events
      stage := keeps.stage.deliver running mail }
  · rename_i rest running mail
    obtain ⟨rfl, rfl⟩ := Prod.mk.inj (Option.some.inj taken)
    have events := keeps.events
    rw [Loopback.events, mail] at events
    exact {
      keeps with
      kept := by simp
      events := by simpa [Loopback.events, List.filterMap_cons, Mail.event?] using events
      looping := by simpa [running] using keeps.looping
      stage := by simpa using keeps.stage.mark running mail }
  · cases taken

/-- A test makes up an event. -/
theorem emit (keeps : Keeps new a told busy s) (event : EngineEvent) :
    Keeps new { a with emitted := a.emitted ++ [event] } told busy (s.emit event) where
  failures := (emit_failures s event).trans keeps.failures
  connectCode := (emit_connectCode s event).trans keeps.connectCode
  attached := (emit_attached s event).trans keeps.attached
  kept := by simpa using keeps.kept
  subscriptions := (emit_subscriptions s event).trans keeps.subscriptions
  events := by rw [emit_events, if_neg keeps.kept, List.map_append, ← List.append_assoc, keeps.events, List.map_append]
  looping := by rw [emit_receiver]; exact keeps.looping
  stage := keeps.stage.emit keeps.kept event

end Keeps

end Steps

/-! ## Lives -/

/-- What is about no command leaves what was owed, and whether there is a loop. -/
theorem account_of_quiet {early mid : List (Incident (List Report ⊕ Stir))} (quiet : ∀ x ∈ mid, x.command? = none) :
    (account new (early ++ mid)).owed = (account new early).owed ∧
      (account new (early ++ mid)).looping = (account new early).looping := by
  induction mid using List.reverseRecOn with
  | nil => simp
  | append_singleton mid x same =>
    obtain ⟨owed, looping⟩ := same fun y among => quiet y (List.mem_append_left _ among)
    have silent := quiet x (by simp)
    rw [← List.append_assoc, account_concat, ← owed, ← looping]
    cases x with
    | heard c | answered c r => cases silent
    | aside i => rcases i with reports | event | code <;> exact ⟨rfl, rfl⟩
    | _ => exact ⟨rfl, rfl⟩

/-- An engine with an event path keeps to what its history says. -/
theorem Keeps.of_life (life : Lives new h busy s) (attached : new.attached = true) (held : new.receiver = .held)
    (unmarked : new.stops = 0) : Keeps new (account new h) (delivered h) busy s := by
  -- By induction on the life: every step keeps the account of what was emitted and of what is still owed.
  induction life with
  | begin => exact .begin attached held unmarked
  | set x life keeps =>
    rw [account_concat, delivered_concat_of_silent rfl]
    exact { keeps with stage := keeps.stage.congr rfl rfl }
  | attach life keeps =>
    rw [account_concat, delivered_concat_of_silent rfl]
    exact { keeps with attached := rfl, stage := keeps.stage.congr rfl rfl }
  | hear now c life keeps =>
    rw [account_concat, delivered_concat_of_silent rfl]
    exact keeps.hear c
  | answer life done keeps =>
    rw [account_concat, delivered_concat_of_silent rfl]
    exact keeps.answer done
  | @aside h busy s u i life happened keeps =>
    rw [account_concat]
    cases happened with
    | delivered taken =>
      rw [delivered_concat]
      exact keeps.deliver taken
    | stirred stir =>
      rw [delivered_concat_of_silent rfl]
      cases stir with
      | inject event => exact keeps.emit event
      | drop code =>
        have parted : Keeps new (account new h) (delivered h) busy { s with connected := false } :=
          { keeps with stage := keeps.stage.congr rfl rfl }
        exact parted.emit (.disconnect code)

/-- Whoever stops a loop has waited until everything was delivered that had been emitted before. -/
theorem owed_of_life (life : Lives new h busy s) (attached : new.attached = true) (held : new.receiver = .held)
    (unmarked : new.stops = 0) :
    ∀ g x late, h = g ++ x :: late → ∀ c r, x = .answered c r → Halts new (some c) → (account new g).looping = true →
      (account new g).owed.map .event <+: delivered g := by
  induction life with
  | begin =>
    intro g x late split
    simp at split
  | @answer h s u now c r life done told =>
    refine forall_split_concat.mpr ⟨told, ?_⟩
    rintro c' r' same halts looping
    cases same
    exact (Keeps.of_life life attached held unmarked).owed_of_halted halts done looping
  | set _ _ told | attach _ told | hear _ _ _ told | aside _ _ told =>
    -- Only an answer is a place at which something has to have been delivered.
    refine forall_split_concat.mpr ⟨told, ?_⟩
    intro c r same
    cases same

/-- However often a loop is started and stopped, what was delivered, and behind it what waits, is what was emitted. A
stop marker waits only while the command waits that has sent it, for a loop that runs. And when a command that has
stopped a loop is answered, everything has been delivered that was emitted before the command was heard. -/
theorem deliveries_of_life (life : Lives new h busy s) (attached : new.attached = true) (held : new.receiver = .held)
    (unmarked : new.stops = 0) :
    delivered h ++ s.events.map .event = (emitted new h).map .event ∧
      (s.stops ≤ 1 ∧ (.stop ∈ s.mailbox → s.receiver = .running ∧ Halts new busy)) ∧
      ∀ early c mid r late, h = early ++ .heard c :: (mid ++ .answered c r :: late) →
        (∀ x ∈ mid, x.command? = none) → Halts new (some c) → (account new early).looping = true →
        (emitted new early).map .event <+: delivered (early ++ .heard c :: mid) := by
  have keeps := Keeps.of_life life attached held unmarked
  refine ⟨keeps.events, ?_, ?_⟩
  · cases keeps.stage with
    | unsent unmarked | taken _ _ unmarked =>
      exact ⟨by omega, fun among => absurd among (List.count_eq_zero.mp unmarked)⟩
    | waits halts running _ one => exact ⟨by omega, fun _ => ⟨running, halts⟩⟩
  · intro early c mid r late split quiet halts looping
    -- While the command waits no other is heard, so what is owed is what had been emitted when it was heard.
    obtain ⟨owed, same⟩ := @account_of_quiet new (early ++ [.heard c]) mid quiet
    rw [account_concat] at owed same
    have all := owed_of_life life attached held unmarked (early ++ [.heard c] ++ mid) _ late (by simp [split]) c r rfl
      halts (same.trans looping)
    rw [owed, List.append_assoc] at all
    exact all

/-- An engine that somebody listens to, and that accepts no publish. -/
def mute : Loopback := { fresh [("publish", .noMem)] [] 0 with attached := true }

/-- A loop is started, stopped, and started again. When it is stopped one event waits, and another one comes behind the
marker. -/
def restarts : List (Incident (List Report ⊕ Stir)) :=
  [.heard (.connect "broker" 1883 60), .answered (.connect "broker" 1883 60) (.ofStatus .success),
    .aside (.inr (.inject (.publish 5))), .heard .startLoop, .answered .startLoop (.ofStatus .success),
    .aside (.inl [.event (.connect 0)]), .heard .stopLoop, .aside (.inr (.drop 7)),
    .aside (.inl [.event (.publish 5)]), .aside (.inl []), .answered .stopLoop (.ofStatus .success),
    .heard (.publish "news" .empty .atMostOnce false),
    .answered (.publish "news" .empty .atMostOnce false) (.ofStatus .noMem),
    .heard .startLoop, .answered .startLoop (.ofStatus .success)]

/-- What was emitted before the first loop was to stop is delivered by this loop. What stands behind the marker waits for
the second loop, and a publish that is refused adds nothing. -/
theorem deliveries_of_life_restarted :
    ∃ s, Lives mute restarts none s ∧ delivered restarts = [.event (.connect 0), .event (.publish 5)] ∧
      s.events = [.disconnect 7] ∧ s.stops = 0 ∧
      delivered restarts ++ s.events.map .event = (emitted mute restarts).map .event ∧
      (emitted mute (restarts.take 6)).map .event <+: delivered (restarts.take 10) := by
  have new : Lives mute [] none mute := .begin
  have joined : Lives mute (restarts.take 2) none _ := new.exchange 0 (.connect "broker" 1883 60) rfl
  have injected : Lives mute (restarts.take 3) none _ := joined.aside (.stirred (.inject (.publish 5)))
  have started : Lives mute (restarts.take 5) none _ := injected.exchange 0 .startLoop rfl
  have told : Lives mute (restarts.take 6) none _ := started.aside (.delivered rfl)
  have stopping : Lives mute (restarts.take 7) (some .stopLoop) _ := told.hear 0 .stopLoop
  have dropped : Lives mute (restarts.take 8) (some .stopLoop) _ := stopping.aside (.stirred (.drop 7))
  have toldMore : Lives mute (restarts.take 9) (some .stopLoop) _ := dropped.aside (.delivered rfl)
  have ended : Lives mute (restarts.take 10) (some .stopLoop) _ := toldMore.aside (.delivered rfl)
  have stopped : Lives mute (restarts.take 11) none _ :=
    ended.answer (show engine.finish _ 0 .stopLoop = _ from rfl)
  have refused : Lives mute (restarts.take 13) none _ :=
    stopped.exchange 0 (.publish "news" .empty .atMostOnce false) rfl
  have again : Lives mute restarts none _ := refused.exchange 0 .startLoop rfl
  have deliveries := deliveries_of_life again rfl rfl rfl
  have owed := deliveries.2.2 (restarts.take 6) .stopLoop ((restarts.take 10).drop 7) (.ofStatus .success)
    (restarts.drop 11) rfl (by decide) ⟨_, rfl, rfl, .inr rfl⟩ rfl
  exact ⟨_, again, rfl, rfl, rfl, deliveries.1, owed⟩

end BrokerSession.Loopback
