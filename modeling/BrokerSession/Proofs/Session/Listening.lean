import BrokerSession.Proofs.Histories
import BrokerSession.Proofs.Loopback
import BrokerSession.Proofs.Network.Traffic
import Mathlib.Data.List.Induction

/-!
# What a listener makes of a history

A listener does two things with an event, and they do not depend on each other. Where the connection stands is decided
by the answers to connects and the ends of connections alone, and by whether the session is meant to run when they
arrive. What the application hears is decided by the event itself: a well-formed event is told once, by the notice that
belongs to it, and a malformed one is not told. What the application asked for only decides what of this it hears.

So it makes no difference to the standing who listens, nor what traffic passes, and what was heard by an application
that asked for some kinds of notices is found in the log of one that asked for all of them.

## Main definitions

* `Stimulus` - an event, or a change of whether the session is meant to run
* `Listener.after`, `Listener.course` - where a history leads, and by which way
* `Listener.log` - what the application hears of it
* `EngineEvent.WellFormed`, `Tells` - the events that are told, and the notices that belong to them
* `Recounts` - a log that has one entry for each well-formed event of a history

## Main results

* `notice?_eq_some_iff` - a listener reads an event as the notice that belongs to it, and no other event as anything
* `Listener.phase_eq_connected_iff`, `Listener.phase_eq_connecting_iff` - the last word about the connection decides
* `Listener.course_and_log` - everything about a listener and a history
-/

namespace BrokerSession

/-! ## Events and their notices -/

/-- A well-formed event. The number of a message fits two bytes; an arriving message also has a topic, which is text
and not empty, and one of the three guarantees. -/
def EngineEvent.WellFormed : EngineEvent → Prop
  | connect _ | disconnect _ => True
  | publish id | subscribe id _ _ | unsubscribe id => 0 ≤ id ∧ id ≤ 65535
  | message raw =>
    (0 ≤ raw.id ∧ raw.id ≤ 65535) ∧ (0 ≤ raw.qos ∧ raw.qos ≤ 2) ∧
      ∃ topic : String, topic ≠ "" ∧ raw.topic = some topic.toByteArray

/-- The notice that belongs to an event. A message without a payload is told with an empty one, and of the levels of an
answered subscription as many as were announced. -/
inductive Tells : EngineEvent → Notice → Prop where
  | connect (code : Int) : Tells (.connect code) (.connected (.ofCode code))
  | disconnect (code : Int) : Tells (.disconnect code) (.disconnected (.ofCode code))
  | publish (id : MessageId) : Tells (.publish id.toNat) (.published id)
  | message (id : MessageId) (topic : String) (payload : Option ByteArray) (qos : Qos) (retain : Bool)
      (named : topic ≠ "") :
      Tells (.message ⟨id.toNat, some topic.toByteArray, payload, qos.level, retain⟩)
        (.message ⟨id, topic, payload.getD .empty, qos, retain⟩)
  | subscribe (id : MessageId) (count : Nat) (granted : List Int) :
      Tells (.subscribe id.toNat count granted) (.subscribed id (granted.take count))
  | unsubscribe (id : MessageId) : Tells (.unsubscribe id.toNat) (.unsubscribed id)

/-- The integer behind a number of a message is that number. -/
theorem messageId?_eq_some_iff {raw : Int} {id : MessageId} : messageId? raw = some id ↔ raw = id.toNat := by
  constructor
  · intro read
    unfold messageId? at read
    split at read
    · rename_i fits
      obtain rfl := Option.some.inj read
      rw [UInt16.toNat_ofNat', Nat.mod_eq_of_lt (by omega)]
      omega
    · cases read
  · rintro rfl
    exact messageId?_toNat id

/-- The integers that stand for a number of a message are those of two bytes. -/
theorem exists_messageId_iff {raw : Int} : (∃ id : MessageId, raw = id.toNat) ↔ 0 ≤ raw ∧ raw ≤ 65535 := by
  constructor
  · rintro ⟨id, rfl⟩
    have bound := id.toNat_lt_size
    rw [UInt16.size] at bound
    omega
  · rintro ⟨low, high⟩
    refine ⟨.ofNat raw.toNat, messageId?_eq_some_iff.mp ?_⟩
    rw [messageId?, if_pos (by omega)]

/-- The integers that stand for a guarantee are the three levels. -/
theorem exists_qos_iff {raw : Int} : (∃ qos : Qos, raw = qos.level) ↔ 0 ≤ raw ∧ raw ≤ 2 := by
  constructor
  · rintro ⟨qos, rfl⟩
    cases qos <;> decide
  · rintro ⟨low, high⟩
    obtain rfl | rfl | rfl : raw = 0 ∨ raw = 1 ∨ raw = 2 := by omega
    · exact ⟨.atMostOnce, rfl⟩
    · exact ⟨.atLeastOnce, rfl⟩
    · exact ⟨.exactlyOnce, rfl⟩

/-- The bytes behind a text are its own. -/
theorem fromUTF8?_eq_some_iff {bytes : ByteArray} {text : String} :
    String.fromUTF8? bytes = some text ↔ bytes = text.toByteArray := by
  constructor
  · intro read
    unfold String.fromUTF8? at read
    split at read
    · rw [← Option.some.inj read]
      rfl
    · cases read
  · rintro rfl
    exact fromUTF8?_toByteArray text

/-- A message is read from its own parts, and from nothing else. -/
theorem toMessage?_eq_some_iff {raw : Inbound} {m : Message} :
    raw.toMessage? = some m ↔ Tells (.message raw) (.message m) := by
  constructor
  · intro read
    obtain ⟨id, bytes, payload, level, retain⟩ := raw
    simp only [Inbound.toMessage?, Option.bind_eq_bind, Option.bind_eq_some_iff] at read
    obtain ⟨bytes, rfl, text, decoded, read⟩ := read
    obtain rfl := fromUTF8?_eq_some_iff.mp decoded
    by_cases unnamed : text = ""
    · simp [unnamed] at read
    · simp only [String.isEmpty_iff, unnamed, if_false, Option.bind_eq_some_iff] at read
      obtain ⟨number, numbered, guarantee, graded, built⟩ := read
      obtain rfl := messageId?_eq_some_iff.mp numbered
      obtain rfl := Qos.ofLevel?_eq_some_iff.mp graded
      obtain rfl := Option.some.inj built
      exact .message number text payload guarantee retain unnamed
  · rintro ⟨⟩
    rename_i id topic payload qos retain named
    simp [Inbound.toMessage?, named]

/-- A listener reads an event as the notice that belongs to it. -/
theorem notice?_eq_some_iff {e : EngineEvent} {n : Notice} : e.notice? = some n ↔ Tells e n := by
  constructor
  · intro read
    cases e with
    | connect code =>
      obtain rfl := Option.some.inj read
      exact .connect code
    | disconnect code =>
      obtain rfl := Option.some.inj read
      exact .disconnect code
    | publish raw =>
      obtain ⟨id, stands, rfl⟩ := Option.map_eq_some_iff.mp read
      obtain rfl := messageId?_eq_some_iff.mp stands
      exact .publish id
    | message raw =>
      obtain ⟨m, stands, rfl⟩ := Option.map_eq_some_iff.mp read
      exact toMessage?_eq_some_iff.mp stands
    | subscribe raw count granted =>
      obtain ⟨id, stands, rfl⟩ := Option.map_eq_some_iff.mp read
      obtain rfl := messageId?_eq_some_iff.mp stands
      exact .subscribe id count granted
    | unsubscribe raw =>
      obtain ⟨id, stands, rfl⟩ := Option.map_eq_some_iff.mp read
      obtain rfl := messageId?_eq_some_iff.mp stands
      exact .unsubscribe id
  · intro tells
    cases tells with
    | connect code | disconnect code => rfl
    | publish id => exact notice?_publish (messageId?_toNat id)
    | message id topic payload qos retain named =>
      exact Option.map_eq_some_iff.mpr
        ⟨_, toMessage?_eq_some_iff.mpr (.message id topic payload qos retain named), rfl⟩
    | subscribe id count granted => exact notice?_subscribe (messageId?_toNat id) count granted
    | unsubscribe id => exact notice?_unsubscribe (messageId?_toNat id)

/-- The events that have a notice are the well-formed ones. -/
theorem exists_tells_iff {e : EngineEvent} : (∃ n, Tells e n) ↔ e.WellFormed := by
  constructor
  · rintro ⟨n, tells⟩
    cases tells with
    | connect code | disconnect code => trivial
    | publish id | subscribe id | unsubscribe id => exact exists_messageId_iff.mp ⟨id, rfl⟩
    | message id topic payload qos retain named =>
      exact ⟨exists_messageId_iff.mp ⟨id, rfl⟩, exists_qos_iff.mp ⟨qos, rfl⟩, topic, named, rfl⟩
  · intro formed
    cases e with
    | connect code => exact ⟨_, .connect code⟩
    | disconnect code => exact ⟨_, .disconnect code⟩
    | publish raw =>
      obtain ⟨id, rfl⟩ := exists_messageId_iff.mpr formed
      exact ⟨_, .publish id⟩
    | subscribe raw count granted =>
      obtain ⟨id, rfl⟩ := exists_messageId_iff.mpr formed
      exact ⟨_, .subscribe id count granted⟩
    | unsubscribe raw =>
      obtain ⟨id, rfl⟩ := exists_messageId_iff.mpr formed
      exact ⟨_, .unsubscribe id⟩
    | message raw =>
      obtain ⟨raw, bytes, payload, level, retain⟩ := raw
      obtain ⟨numbered, graded, topic, named, rfl⟩ := formed
      obtain ⟨id, rfl⟩ := exists_messageId_iff.mpr numbered
      obtain ⟨qos, rfl⟩ := exists_qos_iff.mpr graded
      exact ⟨_, .message id topic payload qos retain named⟩

/-! ## Histories -/

/-- What a listener and its session meet with. -/
inductive Stimulus where
  /-- The engine reports something. -/
  | event (e : EngineEvent)
  /-- From now on the session is meant to run, or to rest. -/
  | running (flag : Bool)

namespace Stimulus

/-- Whether the engine reports something that passes over the connection. -/
def isTraffic : Stimulus → Bool
  | event (.publish _) | event (.message _) | event (.subscribe ..) | event (.unsubscribe _) => true
  | _ => false

/-- What is said about the connection: it is there, it is not, or nothing. -/
def link? : Stimulus → Option Bool
  | event e => e.link?
  | running _ => none

/-- Only an accepted connect says that the connection is there. -/
theorem link?_eq_some_true_iff {x : Stimulus} : x.link? = some true ↔ x = event (.connect 0) := by
  cases x with
  | running flag => simp [link?]
  | event e => cases e <;> simp [link?, EngineEvent.link?]

/-- What there is to tell. -/
def notice? : Stimulus → Option Notice
  | event e => e.notice?
  | running _ => none

/-- Whether the session is meant to run from now on. -/
def runs (flag : Bool) : Stimulus → Bool
  | event _ => flag
  | running new => new

/-- Whether the session is meant to run after a history. -/
def runningAfter (flag : Bool) (h : List Stimulus) : Bool := h.foldl runs flag

end Stimulus

/-- A log recounts a history: there is one entry for each well-formed event, in the order of the events, and nothing
for a malformed one. -/
inductive Recounts : List Stimulus → List Notice → Prop where
  | nil : Recounts [] []
  | told {e : EngineEvent} {n : Notice} {h : List Stimulus} {told : List Notice} (tells : Tells e n)
      (rest : Recounts h told) : Recounts (.event e :: h) (n :: told)
  | malformed {e : EngineEvent} {h : List Stimulus} {told : List Notice} (malformed : ¬ e.WellFormed)
      (rest : Recounts h told) : Recounts (.event e :: h) told
  | running {flag : Bool} {h : List Stimulus} {told : List Notice} (rest : Recounts h told) :
      Recounts (.running flag :: h) told

namespace Listener

variable {l l' : Listener} {s : Standing} {x : Stimulus} {h : List Stimulus}

/-- What a stimulus does: the standing it leaves, and what the application is told. -/
def meet (l : Listener) (s : Standing) : Stimulus → Standing × Option Notice
  | .event e => l.handle s e
  | .running flag => ({ s with running := flag }, none)

/-- The standing after a history. -/
def after (l : Listener) (s : Standing) (h : List Stimulus) : Standing :=
  h.foldl (fun s x => (l.meet s x).1) s

/-- The way a history takes: every stimulus with the standing that it leaves. -/
def course (l : Listener) : Standing → List Stimulus → List (Stimulus × Standing)
  | _, [] => []
  | s, x :: h => (x, (l.meet s x).1) :: l.course (l.meet s x).1 h

/-- What the application hears of a history. -/
def log (l : Listener) : Standing → List Stimulus → List Notice
  | _, [] => []
  | s, x :: h => (l.meet s x).2.toList ++ l.log (l.meet s x).1 h

theorem after_concat : l.after s (h ++ [x]) = (l.meet (l.after s h) x).1 := by
  simp [after]

theorem course_concat : l.course s (h ++ [x]) = l.course s h ++ [(x, l.after s (h ++ [x]))] := by
  induction h generalizing s with
  | nil => rfl
  | cons y h ih => exact congrArg _ ih

/-! ## Where a history leads -/

theorem meet_fst_congr (alike : l'.autoReconnect = l.autoReconnect) : (l'.meet s x).1 = (l.meet s x).1 := by
  cases x with
  | event e => cases e <;> simp [meet, handle, advance, retryPhase, alike]
  | running flag => rfl

/-- Traffic does not change the standing. -/
theorem meet_fst_of_isTraffic (traffic : x.isTraffic = true) : (l.meet s x).1 = s := by
  cases x with
  | event e => cases e <;> first | rfl | cases traffic
  | running flag => cases traffic

theorem after_congr (alike : l'.autoReconnect = l.autoReconnect) : l'.after s h = l.after s h := by
  induction h using List.reverseRecOn with
  | nil => rfl
  | append_singleton h x ih => rw [after_concat, after_concat, ih, meet_fst_congr alike]

/-- Without its traffic a history leads to the same standing. -/
theorem after_filter : l.after s (h.filter fun x => !x.isTraffic) = l.after s h := by
  induction h using List.reverseRecOn with
  | nil => rfl
  | append_singleton h x ih =>
    rw [List.filter_append, after_concat]
    -- What is left out at the end would not have changed anything, and what stays finds the same standing.
    cases traffic : x.isTraffic with
    | true => simp [traffic, ih, meet_fst_of_isTraffic traffic]
    | false => simp [traffic, after_concat, ih]

theorem running_meet : (l.meet s x).1.running = x.runs s.running := by
  cases x with
  | event e => exact l.advance_running s e
  | running flag => rfl

theorem running_after : (l.after s h).running = Stimulus.runningAfter s.running h := by
  induction h using List.reverseRecOn with
  | nil => rfl
  | append_singleton h x ih => simp [after_concat, running_meet, ih, Stimulus.runningAfter]

/-- What a stimulus does to the phase is what it says about the connection. -/
theorem phase_meet (l : Listener) (s : Standing) (x : Stimulus) :
    (l.meet s x).1.phase =
      match x.link? with
      | some true => .connected
      | some false => l.retryPhase s.running
      | none => s.phase := by
  cases x with
  | running flag => rfl
  | event e =>
    cases e with
    | connect code =>
      by_cases accepted : code = 0
      · simp [meet, handle, advance, Stimulus.link?, EngineEvent.link?, accepted]
      · have told : (code == 0) = false := beq_false_of_ne accepted
        simp [meet, handle, advance, Stimulus.link?, EngineEvent.link?, accepted, told]
    | _ => rfl

theorem retryPhase_ne_connected (l : Listener) (running : Bool) : l.retryPhase running ≠ .connected := by
  unfold retryPhase
  split <;> exact fun connected => nomatch connected

theorem retryPhase_eq_connecting_iff {running : Bool} :
    l.retryPhase running = .connecting ↔ l.autoReconnect = true ∧ running = true := by
  simp [retryPhase]

/-- A session that is apart becomes connected by an accepted connect, if nothing has been said about the connection
since. -/
theorem phase_eq_connected_iff (apart : s.phase = .disconnected) :
    (l.after s h).phase = .connected ↔
      ∃ early late, h = early ++ .event (.connect 0) :: late ∧ ∀ x ∈ late, Stimulus.link? x = none := by
  have lasts : (l.after s h).phase = .connected ↔
      ∃ early y late, h = early ++ y :: late ∧ y.link? = some true ∧ ∀ x ∈ late, Stimulus.link? x = none := by
    induction h using List.reverseRecOn with
    | nil => simp [after, apart]
    | append_singleton h x ih =>
      -- The last stimulus is the last word about the connection, or leaves the one before it to last.
      rw [exists_split_concat (P := fun _ y => Stimulus.link? y = some true), ← ih, after_concat, phase_meet]
      cases said : x.link? with
      | none => simp
      | some there => cases there <;> simp [retryPhase_ne_connected]
  simp only [lasts, Stimulus.link?_eq_some_true_iff]
  constructor
  · rintro ⟨early, y, late, split, rfl, silent⟩
    exact ⟨early, late, split, silent⟩
  · rintro ⟨early, late, split, silent⟩
    exact ⟨early, _, late, split, rfl, silent⟩

/-- It waits for another attempt after a refused connect or the end of a connection, if there will be one, the session
was meant to run at that time, and nothing has been said about the connection since. -/
theorem phase_eq_connecting_iff (apart : s.phase = .disconnected) :
    (l.after s h).phase = .connecting ↔
      ∃ early y late, h = early ++ y :: late ∧
        (y.link? = some false ∧ l.autoReconnect = true ∧ Stimulus.runningAfter s.running early = true) ∧
        ∀ z ∈ late, Stimulus.link? z = none := by
  induction h using List.reverseRecOn with
  | nil => simp [after, apart]
  | append_singleton h x ih =>
    rw [exists_split_concat (P := fun early y => Stimulus.link? y = some false ∧ l.autoReconnect = true ∧
      Stimulus.runningAfter s.running early = true), ← ih, after_concat, phase_meet]
    cases said : x.link? with
    | none => simp
    | some there => cases there <;> simp [retryPhase_eq_connecting_iff, running_after]

/-- No event makes a session leave. -/
theorem phase_ne_disconnecting (apart : s.phase = .disconnected) : (l.after s h).phase ≠ .disconnecting := by
  induction h using List.reverseRecOn with
  | nil => simp [after, apart]
  | append_singleton h x ih =>
    rw [after_concat, phase_meet]
    cases said : x.link? with
    | none => exact ih
    | some there =>
      cases there with
      | true => exact fun leaving => nomatch leaving
      | false =>
        simp only [retryPhase]
        split <;> exact fun leaving => nomatch leaving

/-! ## The way there -/

theorem course_congr (alike : l'.autoReconnect = l.autoReconnect) : l'.course s h = l.course s h := by
  induction h using List.reverseRecOn with
  | nil => rfl
  | append_singleton h x ih => rw [course_concat, course_concat, ih, after_congr alike]

/-- Without its traffic a history takes the same way, past all other stimuli. -/
theorem course_filter :
    l.course s (h.filter fun x => !x.isTraffic) = (l.course s h).filter fun stop => !stop.1.isTraffic := by
  induction h using List.reverseRecOn with
  | nil => rfl
  | append_singleton h x ih =>
    rw [course_concat, List.filter_append, List.filter_append, ← ih]
    cases traffic : x.isTraffic with
    | true => simp [traffic]
    | false =>
      rw [← after_filter (h := h ++ [x])]
      simp [traffic, course_concat]

/-! ## What is heard -/

theorem meet_snd : (l.meet s x).2 = x.notice?.filter l.wants := by
  cases x <;> rfl

/-- Of a history an application hears what there is to tell, as far as it asked for it. -/
theorem log_eq : l.log s h = (h.filterMap Stimulus.notice?).filter l.wants := by
  induction h generalizing s with
  | nil => rfl
  | cons x h ih =>
    rw [log, ih, meet_snd, Option.toList_filter, ← List.filter_append]
    cases read : x.notice? <;> simp [read]

/-- An application that asked for everything hears what there is to tell. -/
theorem log_eq_of_wants (everything : ∀ kind, kind ∈ l.wanted) : l.log s h = h.filterMap Stimulus.notice? := by
  rw [log_eq, List.filter_eq_self]
  intro n _
  simp [wants, everything n.kind]

/-- There is something to tell of the well-formed events, and of nothing else. -/
theorem recounts_notices (h : List Stimulus) : Recounts h (h.filterMap Stimulus.notice?) := by
  induction h with
  | nil => exact .nil
  | cons x h rest =>
    cases x with
    | running flag => exact .running rest
    | event e =>
      rw [List.filterMap_cons, Stimulus.notice?]
      cases read : e.notice? with
      | some n => exact .told (notice?_eq_some_iff.mp read) rest
      | none =>
        -- A well-formed event would have been read as the notice that belongs to it.
        refine .malformed ?_ rest
        intro formed
        obtain ⟨n, tells⟩ := exists_tells_iff.mpr formed
        rw [notice?_eq_some_iff.mpr tells] at read
        cases read

/-! ## Both together -/

/-- Where a history leads, and what is heard of it. The way it takes is the same whoever listens; traffic, well-formed
or not, leaves the standing as it is, and without it the rest of the way is the same. A session that starts apart is
connected exactly if the last word about the connection was an accepted connect. It is connecting exactly if the last
word was a refusal or an end of the connection, the engine tries again on its own, and the session was meant to run when
the word came. Otherwise it is disconnected. The log of an application that asked for everything recounts the history,
and any other application hears of it what it asked for. -/
theorem course_and_log (l : Listener) (running : Bool) (h : List Stimulus) :
    (∀ (l' : Listener) (s : Standing), l'.autoReconnect = l.autoReconnect → l'.course s h = l.course s h) ∧
    (∀ s, l.course s (h.filter fun x => !x.isTraffic) = (l.course s h).filter fun stop => !stop.1.isTraffic) ∧
    (∀ s x, x.isTraffic = true → l.after s (h ++ [x]) = l.after s h) ∧
    ((l.after ⟨.disconnected, running⟩ h).phase = .connected ↔
      ∃ early late, h = early ++ .event (.connect 0) :: late ∧ ∀ x ∈ late, Stimulus.link? x = none) ∧
    ((l.after ⟨.disconnected, running⟩ h).phase = .connecting ↔
      ∃ early y late, h = early ++ y :: late ∧
        (y.link? = some false ∧ l.autoReconnect = true ∧ Stimulus.runningAfter running early = true) ∧
        ∀ x ∈ late, Stimulus.link? x = none) ∧
    (l.after ⟨.disconnected, running⟩ h).phase ≠ .disconnecting ∧
    ∀ (full : Listener) (s s' : Standing), (∀ kind, kind ∈ full.wanted) →
      Recounts h (full.log s h) ∧ l.log s' h = (full.log s h).filter l.wants := by
  refine ⟨fun l' s alike => course_congr alike, fun s => course_filter, ?_, phase_eq_connected_iff rfl,
    phase_eq_connecting_iff rfl, phase_ne_disconnecting rfl, ?_⟩
  · intro s x traffic
    rw [after_concat, meet_fst_of_isTraffic traffic]
  · intro full s s' everything
    rw [log_eq_of_wants everything, log_eq]
    exact ⟨recounts_notices h, rfl⟩

/-- A session is lost while it is meant to run, and an acknowledgement with a number that is none passes in between. An
application that asked for messages only hears nothing of it. -/
theorem course_and_log_lost :
    let l : Listener := ⟨"sensor", [.message], true⟩
    let full : Listener := ⟨"monitor", Notice.Kind.all, true⟩
    let early : List Stimulus := [.running true, .event (.connect 0), .event (.publish 70000)]
    (∀ kind, kind ∈ full.wanted) ∧
      (l.after ⟨.disconnected, false⟩ early).phase = .connected ∧
      (l.after ⟨.disconnected, false⟩ (early ++ [.event (.disconnect 7)])).phase = .connecting ∧
      Recounts early (full.log default early) ∧ l.log default early = [] := by
  intro l full early
  have everything : ∀ kind, kind ∈ full.wanted := fun kind => by cases kind <;> decide
  obtain ⟨-, -, -, connected, -, -, heard⟩ := course_and_log l false early
  obtain ⟨-, -, -, -, connecting, -, -⟩ := course_and_log l false (early ++ [.event (.disconnect 7)])
  obtain ⟨recounts, wanted⟩ := heard full default default everything
  refine ⟨everything, connected.mpr ⟨[.running true], [.event (.publish 70000)], rfl, ?_⟩,
    connecting.mpr ⟨early, .event (.disconnect 7), [], rfl, ⟨rfl, rfl, rfl⟩, ?_⟩, recounts, wanted.trans rfl⟩
  · intro x among
    rw [List.mem_singleton.mp among]
    rfl
  · intro x among
    cases among

end Listener

end BrokerSession
