import BrokerSession.Loopback
import BrokerSession.Session.Listener

/-!
# What commands do to the loopback engine

Of everything in the loopback engine a session depends on little: whether there is a connection, what the events
that wait say about it, and where the receiving end of the mailbox is. The lemmas here say how commands, the event
loop and the broker change these, so that nothing else has to open the engine.

## Main definitions

* `EngineEvent.link?` - what an event says about the connection
* `Loopback.tidings` - what the waiting events say about the connection
* `Loopback.stops` - how many stop markers wait
* `Loopback.Willing` - an engine that refuses nothing and has an event path

## Main results

* `receiver_of_finish` - no command but a start of the loop makes it run
* `finish_connect`, `finish_disconnect`, `finish_startLoop`, `finish_stopLoop`, `finish_message` - the commands
  of a willing engine
-/

namespace BrokerSession

/-! ## Events and the connection -/

/-- What an event says about the connection: it is there, it is not, or nothing. -/
def EngineEvent.link? : EngineEvent → Option Bool
  | connect code => some (code == 0)
  | disconnect _ => some false
  | _ => none

/-- A session that hears of the connection believes what it hears. -/
theorem Listener.isConnected_advance {l : Listener} {s : Standing} {event : EngineEvent} {there : Bool}
    (report : event.link? = some there) : (l.advance s event).isConnected = there := by
  have waits (running : Bool) : (l.retryPhase running == .connected) = false := by
    unfold retryPhase
    split <;> rfl
  cases event with
  | connect code =>
    obtain rfl := Option.some.inj report
    by_cases accepted : code = 0
    · simp [advance, accepted, Standing.isConnected]
    · simp [advance, accepted, Standing.isConnected, waits]
  | disconnect code =>
    obtain rfl := Option.some.inj report
    simp [advance, Standing.isConnected, waits]
  | _ => cases report

theorem Listener.advance_of_link?_eq_none {l : Listener} {s : Standing} {event : EngineEvent}
    (silent : event.link? = none) : l.advance s event = s := by
  cases event with
  | connect code | disconnect code => cases silent
  | _ => rfl

namespace Loopback

variable {s t : Loopback} {cmd : Command} {r : Reply}

/-- What the waiting events say about the connection, the earliest first. -/
def tidings (s : Loopback) : List Bool :=
  s.mailbox.filterMap fun
    | .event e => e.link?
    | .stop => none

/-- How many stop markers wait. -/
def stops (s : Loopback) : Nat := s.mailbox.count .stop

/-! ## The mailbox -/

section Emit

variable (s : Loopback) (event : EngineEvent)

@[simp] theorem emit_connected : (s.emit event).connected = s.connected := by
  unfold emit send; split <;> rfl

@[simp] theorem emit_failures : (s.emit event).failures = s.failures := by
  unfold emit send; split <;> rfl

@[simp] theorem emit_endpoint : (s.emit event).endpoint = s.endpoint := by
  unfold emit send; split <;> rfl

@[simp] theorem emit_attached : (s.emit event).attached = s.attached := by
  unfold emit send; split <;> rfl

@[simp] theorem emit_receiver : (s.emit event).receiver = s.receiver := by
  unfold emit send; split <;> rfl

@[simp] theorem emit_stops : (s.emit event).stops = s.stops := by
  unfold emit send
  split <;> simp [stops]

end Emit

/-- As long as somebody may receive it, what is emitted waits behind everything else. -/
theorem emit_tidings (kept : s.receiver ≠ .lost) (event : EngineEvent) :
    (s.emit event).tidings = s.tidings ++ event.link?.toList := by
  cases h : event.link? <;> simp [emit, send, kept, tidings, h]

/-! ## Every engine -/

@[simp] theorem call_failures (s : Loopback) (cmd : Command) :
    (s.call cmd).failures = s.failures := by
  cases cmd <;> simp only [call, send, record] <;> grind

@[simp] theorem call_receiver (s : Loopback) (cmd : Command) :
    (s.call cmd).receiver = s.receiver := by
  cases cmd <;> simp only [call, send, record] <;> grind

@[simp] theorem call_endpoint (s : Loopback) (cmd : Command) :
    (s.call cmd).endpoint = s.endpoint := by
  cases cmd <;> simp only [call, send, record] <;> grind

theorem collect?_eq_some_iff :
    s.collect? = some t ↔
      s.receiver ≠ .running ∧ t = if s.receiver = .ended then { s with receiver := .held } else s := by
  unfold collect?
  cases s.receiver <;> simp [eq_comm]

@[simp] theorem perform_failures (s : Loopback) (cmd : Command) :
    (s.perform cmd).2.failures = s.failures := by
  cases cmd <;>
    simp only [perform, answerConnect, whenConnected, publish, subscribe, unsubscribe, startLoop] <;>
    grind [emit_failures]

theorem perform_receiver (other : cmd ≠ .startLoop) : (s.perform cmd).2.receiver = s.receiver := by
  cases cmd <;>
    simp only [perform, answerConnect, whenConnected, publish, subscribe, unsubscribe] <;>
    grind [emit_receiver]

/-- The ways in which a command can be answered: it is refused, it is carried out at once, or it has waited until the
loop has ended. -/
theorem finish_eq_some (h : s.finish cmd = some (r, t)) :
    (∃ status, s.refusal? (.command cmd) = some status ∧ cmd ≠ .destroy ∧ r = .ofStatus status ∧ t = s) ∨
      (awaitsLoop cmd = false ∧ s.refusal? (.command cmd) = none ∧ (r, t) = s.perform cmd) ∨
      (awaitsLoop cmd = true ∧ (cmd = .destroy ∨ s.refusal? (.command cmd) = none) ∧
        ∃ u, s.collect? = some u ∧ (r, t) = u.perform cmd) := by
  have waited (taken : s.collect?.map (·.perform cmd) = some (r, t)) :
      ∃ u, s.collect? = some u ∧ (r, t) = u.perform cmd := by
    obtain ⟨u, collected, eq⟩ := Option.map_eq_some_iff.mp taken
    exact ⟨u, collected, eq.symm⟩
  unfold finish at h
  cases refused : s.refusal? (.command cmd) with
  | some status =>
    simp only [refused] at h
    by_cases letGo : cmd = .destroy
    · rw [if_pos letGo] at h
      exact .inr (.inr ⟨by rw [letGo]; rfl, .inl letGo, waited h⟩)
    · rw [if_neg letGo] at h
      obtain ⟨rfl, rfl⟩ := Prod.mk.inj (Option.some.inj h)
      exact .inl ⟨status, rfl, letGo, rfl, rfl⟩
  | none =>
    simp only [refused] at h
    by_cases waits : awaitsLoop cmd = true
    · rw [if_pos waits] at h
      exact .inr (.inr ⟨waits, .inr rfl, waited h⟩)
    · rw [if_neg waits] at h
      exact .inr (.inl ⟨by simpa using waits, rfl, (Option.some.inj h).symm⟩)

theorem failures_of_finish (h : s.finish cmd = some (r, t)) : t.failures = s.failures := by
  rcases finish_eq_some h with ⟨_, _, -, -, rfl⟩ | ⟨-, -, performed⟩ | ⟨-, -, u, collected, performed⟩
  · rfl
  · rw [← perform_failures s cmd, ← performed]
  · have same : u.failures = s.failures := by
      obtain ⟨-, rfl⟩ := collect?_eq_some_iff.mp collected
      split <;> rfl
    rw [← same, ← perform_failures u cmd, ← performed]

/-- No command but a start of the loop makes it run. -/
theorem receiver_of_finish (other : cmd ≠ .startLoop) (h : s.finish cmd = some (r, t)) :
    t.receiver = s.receiver ∨ t.receiver = .held := by
  rcases finish_eq_some h with ⟨_, _, -, -, rfl⟩ | ⟨-, -, performed⟩ | ⟨-, -, u, collected, performed⟩
  · exact .inl rfl
  · rw [← perform_receiver (s := s) other, ← performed]
    exact .inl rfl
  · have moved : t.receiver = u.receiver := by rw [← perform_receiver (s := u) other, ← performed]
    obtain ⟨-, rfl⟩ := collect?_eq_some_iff.mp collected
    rw [moved]
    split
    · exact .inr rfl
    · exact .inl rfl

/-- After a stop of the loop that was not refused no loop runs, and none has to be collected. -/
theorem receiver_of_stopLoop (unrefused : s.failures.lookup "stop_loop" = none)
    (h : s.finish .stopLoop = some (r, t)) : t.receiver = .held ∨ t.receiver = .lost := by
  have waited : s.collect?.map (·.perform .stopLoop) = some (r, t) := by
    simpa [finish, refusal?, Call.name, commandName, unrefused, awaitsLoop] using h
  obtain ⟨u, collected, eq⟩ := Option.map_eq_some_iff.mp waited
  obtain ⟨still, rfl⟩ := collect?_eq_some_iff.mp collected
  cases eq
  cases at_ : s.receiver <;> simp_all

/-! ## A willing engine -/

/-- An engine that refuses nothing and has an event path. -/
structure Willing (s : Loopback) : Prop where
  failures : s.failures = []
  attached : s.attached = true
  kept : s.receiver ≠ .lost

/-- Two states of the engine between which nothing has happened to the connection or the loop. -/
structure Alike (s t : Loopback) : Prop where
  failures : t.failures = s.failures
  attached : t.attached = s.attached
  receiver : t.receiver = s.receiver
  stops : t.stops = s.stops
  connected : t.connected = s.connected
  endpoint : t.endpoint = s.endpoint
  tidings : t.tidings = s.tidings

/-- Two states of the engine between which the connection came up or went down, with an event to say so. -/
structure Told (s t : Loopback) (there : Bool) : Prop where
  failures : t.failures = s.failures
  attached : t.attached = s.attached
  receiver : t.receiver = s.receiver
  stops : t.stops = s.stops
  connected : t.connected = there
  tidings : t.tidings = s.tidings ++ [there]
  /-- Without a broker there is nothing to connect to. -/
  tried : t.endpoint = none → s.endpoint = none ∧ there = false

theorem Alike.willing (same : Alike s t) (willing : s.Willing) : t.Willing :=
  ⟨same.failures.trans willing.failures, same.attached.trans willing.attached,
    same.receiver ▸ willing.kept⟩

theorem Told.willing {there : Bool} (told : Told s t there) (willing : s.Willing) : t.Willing :=
  ⟨told.failures.trans willing.failures, told.attached.trans willing.attached,
    told.receiver ▸ willing.kept⟩

theorem Willing.eq_perform (willing : s.Willing) (prompt : awaitsLoop cmd = false)
    (h : s.finish cmd = some (r, t)) : s.perform cmd = (r, t) := by
  simpa [finish, refusal?, willing.failures, prompt] using h

theorem alike_call (prompt : awaitsLoop cmd = false) : Alike s (s.call cmd) := by
  cases cmd with
  | stopLoop | destroy => cases prompt
  | _ => exact ⟨rfl, rfl, rfl, rfl, rfl, rfl, rfl⟩

theorem Willing.call_stopLoop (willing : s.Willing) :
    s.call .stopLoop =
      if s.receiver = .running then (s.record (.command .stopLoop)).send .stop
      else s.record (.command .stopLoop) := by
  simp [call, refusal?, willing.failures, record]

theorem alike_emit (willing : s.Willing) {event : EngineEvent} (silent : event.link? = none) :
    Alike s (s.emit event) := by
  refine ⟨by simp, by simp, by simp, by simp, by simp, by simp, ?_⟩
  rw [emit_tidings willing.kept, silent, Option.toList_none, List.append_nil]

theorem Alike.trans {u : Loopback} (h : Alike s t) (h' : Alike t u) : Alike s u :=
  ⟨h'.failures.trans h.failures, h'.attached.trans h.attached, h'.receiver.trans h.receiver,
    h'.stops.trans h.stops, h'.connected.trans h.connected, h'.endpoint.trans h.endpoint,
    h'.tidings.trans h.tidings⟩

/-- The connection comes up or goes down, and an event says so. -/
theorem told_emit (willing : s.Willing) (event : EngineEvent) {there : Bool}
    (report : event.link? = some there) (tried : s.endpoint = none → there = false) :
    Told s ({ s with connected := there }.emit event) there := by
  refine ⟨by simp, by simp, by simp, emit_stops .., by simp, ?_, fun untried => ?_⟩
  · rw [emit_tidings (s := { s with connected := there }) willing.kept, report]
    rfl
  · rw [emit_endpoint] at untried
    exact ⟨untried, tried untried⟩

theorem told_dropConnection (willing : s.Willing) (code : Int) :
    Told s (s.dropConnection code) false :=
  told_emit willing _ rfl fun _ => rfl

/-- A connect is answered, and the answer says whether the broker accepted it. A reconnect without a broker is
refused. -/
theorem finish_connect (willing : s.Willing) (h : s.finish cmd = some (r, t))
    (connects : cmd = .reconnect ∨ ∃ host port keepAlive, cmd = .connect host port keepAlive) :
    (r.status.isSuccess = true ∧ ∃ there, Told s t there) ∨
      (r.status.isSuccess = false ∧ t = s ∧ s.endpoint = none) := by
  rcases connects with rfl | ⟨host, port, keepAlive, rfl⟩
  · have performed := willing.eq_perform rfl h
    simp only [perform] at performed
    by_cases untried : s.endpoint = none
    · obtain ⟨rfl, rfl⟩ := Prod.mk.inj (by simpa [untried] using performed)
      exact .inr ⟨rfl, rfl, untried⟩
    · rw [if_pos (Option.isSome_iff_ne_none.mpr untried)] at performed
      cases performed
      exact .inl ⟨rfl, _, told_emit willing _ rfl fun none => absurd none untried⟩
  · cases willing.eq_perform rfl h
    have told := told_emit (s := { s with endpoint := some (host, port, keepAlive) })
      ⟨willing.failures, willing.attached, willing.kept⟩ (.connect s.connectCode) rfl
      fun untried => by cases untried
    -- The broker is known from here on, so nothing is left to show about an engine without one.
    refine .inl ⟨rfl, _, told.failures, told.attached, told.receiver, told.stops, told.connected,
      told.tidings, fun untried => ?_⟩
    cases (told.tried untried).1

theorem finish_disconnect (willing : s.Willing) (h : s.finish .disconnect = some (r, t)) :
    t.connected = false ∧ (Alike s t ∨ Told s t false) := by
  have performed := willing.eq_perform rfl h
  simp only [perform, whenConnected] at performed
  split at performed
  · cases performed
    have told := told_emit willing (.disconnect 0) rfl fun _ => rfl
    exact ⟨told.connected, .inr told⟩
  · rename_i unconnected
    cases performed
    exact ⟨by simpa using unconnected, .inl ⟨rfl, rfl, rfl, rfl, rfl, rfl, rfl⟩⟩

theorem finish_startLoop (willing : s.Willing) (h : s.finish .startLoop = some (r, t)) :
    t = if s.receiver = .held then { s with receiver := .running } else s := by
  have started := willing.eq_perform rfl h
  have kept := willing.kept
  cases at_ : s.receiver <;> simp_all [perform, startLoop, willing.attached]

theorem finish_stopLoop (willing : s.Willing) (h : s.finish .stopLoop = some (r, t)) :
    s.receiver ≠ .running ∧ t = { s with receiver := .held } := by
  have waited : s.collect?.map (·.perform .stopLoop) = some (r, t) := by
    simpa [finish, refusal?, willing.failures, awaitsLoop] using h
  obtain ⟨u, collected, eq⟩ := Option.map_eq_some_iff.mp waited
  obtain ⟨still, rfl⟩ := collect?_eq_some_iff.mp collected
  cases eq
  refine ⟨still, ?_⟩
  have kept := willing.kept
  cases at_ : s.receiver <;> simp_all
  rw [← at_]

theorem alike_publish (willing : s.Willing) (topic : String) (payload : ByteArray) (qos : Qos) :
    Alike s (s.publish topic payload qos).2 := by
  have numbered (id : MessageId) : Alike s { s with lastId := id } :=
    ⟨rfl, rfl, rfl, rfl, rfl, rfl, rfl⟩
  have acknowledged (id id' : MessageId) :
      Alike s ({ s with lastId := id }.emit (.publish id'.toNat)) :=
    (numbered id).trans (alike_emit ((numbered id).willing willing) rfl)
  unfold publish
  dsimp only
  split
  · exact (acknowledged _ _).trans (alike_emit ((acknowledged _ _).willing willing) rfl)
  · exact acknowledged _ _

/-- Messages and subscriptions have nothing to do with the connection. -/
theorem finish_message (willing : s.Willing) (h : s.finish cmd = some (r, t))
    (message : (∃ topic payload qos retain, cmd = .publish topic payload qos retain) ∨
      (∃ filters qos, cmd = .subscribe filters qos) ∨ ∃ filter, cmd = .unsubscribe filter) :
    Alike s t := by
  have same : Alike s s := ⟨rfl, rfl, rfl, rfl, rfl, rfl, rfl⟩
  -- A message or subscription changes the mailbox, the last number and the subscriptions at most.
  have guarded {act : Reply × Loopback} (alike : Alike s act.2) (h : s.whenConnected act = (r, t)) :
      Alike s t := by
    unfold whenConnected at h
    split at h <;> cases h
    · exact alike
    · exact same
  have subscriptions (id : MessageId) (kept : List (String × Qos)) {event : EngineEvent}
      (silent : event.link? = none) :
      Alike s ({ s with lastId := id, subscriptions := kept }.emit event) :=
    have numbered : Alike s { s with lastId := id, subscriptions := kept } :=
      ⟨rfl, rfl, rfl, rfl, rfl, rfl, rfl⟩
    numbered.trans (alike_emit (numbered.willing willing) silent)
  rcases message with ⟨topic, payload, qos, retain, rfl⟩ | ⟨filters, qos, rfl⟩ | ⟨filter, rfl⟩
  · exact guarded (alike_publish willing topic payload qos) (willing.eq_perform rfl h)
  · exact guarded (subscriptions _ _ rfl) (willing.eq_perform rfl h)
  · exact guarded (subscriptions _ _ rfl) (willing.eq_perform rfl h)

end Loopback

end BrokerSession
