import BrokerSession.Proofs.Loopback

/-!
# What the loopback engine replies

What the loopback engine replies to a command does not depend on its mail, nor on whether a loop that was
started is still at work or has come to its stop marker: a command that has to wait for the loop waits until it
has ended. So the replies to commands that are given one after another, and the events that the commands send
out, follow from the commands alone, whenever and however far a loop has come in between.

## Main definitions

* `Loopback.events` - the events that wait in the mailbox
* `Loopback.face` - the engine without its mail, as its commands see it
* `Loopback.answer`, `Loopback.carryOut` - a command carried out as if its loop had ended in time
* `Loopback.replies`, `Loopback.played` - commands carried out one after another

## Main results

* `answer_of_finish` - the engine never answers anything else
* `answer_congr` - engines that look alike answer alike, and send the same events
-/

namespace BrokerSession.Loopback

variable {s t v : Loopback} {cmd : Command} {r : Reply}

/-- The event in a piece of mail, if it is one. -/
def Mail.event? : Mail → Option EngineEvent
  | event e => some e
  | stop => none

/-- The events that wait in the mailbox, the earliest first. -/
def events (s : Loopback) : List EngineEvent := s.mailbox.filterMap Mail.event?

/-- The engine without its mail, as its commands see it: a loop that has ended is one that was started. -/
def face (s : Loopback) : Loopback :=
  { s with mailbox := [], receiver := if s.receiver = .ended then .running else s.receiver }

/-! ## The mailbox behind the face -/

@[simp] theorem face_face (s : Loopback) : s.face.face = s.face := by
  simp only [face]
  split <;> simp_all

@[simp] theorem record_events (s : Loopback) (x : Call) : (s.record x).events = s.events := rfl

@[simp] theorem record_face (s : Loopback) (x : Call) : (s.record x).face = s.face.record x := rfl

@[simp] theorem send_face (s : Loopback) (m : Mail) : (s.send m).face = s.face := by
  unfold send
  split <;> rfl

@[simp] theorem emit_face (s : Loopback) (event : EngineEvent) : (s.emit event).face = s.face :=
  send_face s (.event event)

@[simp] theorem send_stop_events (s : Loopback) : (s.send .stop).events = s.events := by
  unfold send
  split
  · rfl
  · simp [events, Mail.event?]

/-- An event waits behind everything else, unless nobody will receive it. -/
theorem emit_events (s : Loopback) (event : EngineEvent) :
    (s.emit event).events = s.events ++ if s.receiver = .lost then [] else [event] := by
  unfold emit send
  split
  · rw [List.append_nil]
  · simp [events, Mail.event?]

theorem face_receiver_eq_lost_iff : s.face.receiver = .lost ↔ s.receiver = .lost := by
  simp only [face]
  split <;> simp_all

@[simp] theorem call_face (s : Loopback) (cmd : Command) :
    (s.call cmd).face = s.face.record (.command cmd) := by
  cases cmd <;> simp only [call] <;> first | rfl | (split <;> simp)

@[simp] theorem call_events (s : Loopback) (cmd : Command) : (s.call cmd).events = s.events := by
  cases cmd <;> simp only [call] <;> first | rfl | (split <;> simp)

/-- The loop takes the mail and comes to its end, and commands see nothing of it. -/
theorem face_of_deliver {reports : List Report} (h : s.deliver = some (reports, t)) :
    t.face = s.face := by
  unfold deliver at h
  split at h
  · cases h
    rfl
  · rename_i rest running waits
    cases h
    simp [face, running]
  · cases h

/-! ## Commands behind the face -/

/-- Whether an outcome of a command for an engine is the one for its face: the reply is the same, and the same
events are sent after the mail that waited already. -/
structure Veiled (s : Loopback) (outcome bare : Reply × Loopback) : Prop where
  reply : outcome.1 = bare.1
  face : outcome.2.face = bare.2.face
  events : outcome.2.events = s.events ++ bare.2.events

/-- A change that leaves the mail and the loop alone. -/
theorem Veiled.of_fields (s : Loopback) (r : Reply) (connected : Bool)
    (endpoint : Option (String × UInt16 × UInt16)) (lastId : MessageId)
    (subscriptions : List (String × Qos)) :
    Veiled s (r, { s with connected, endpoint, lastId, subscriptions })
      (r, { s.face with connected, endpoint, lastId, subscriptions }) := by
  refine ⟨rfl, ?_, ?_⟩
  · exact congrArg (fun f : Loopback => { f with connected, endpoint, lastId, subscriptions })
      (face_face s).symm
  · exact (List.append_nil _).symm

theorem Veiled.refl (s : Loopback) (r : Reply) : Veiled s (r, s) (r, s.face) :=
  of_fields s r s.connected s.endpoint s.lastId s.subscriptions

theorem Veiled.emit {r' : Reply} (h : Veiled s (r, t) (r', v)) (event : EngineEvent) :
    Veiled s (r, t.emit event) (r', v.emit event) := by
  have same : t.face = v.face := h.face
  have lost : t.receiver = .lost ↔ v.receiver = .lost := by
    rw [← face_receiver_eq_lost_iff, same, face_receiver_eq_lost_iff]
  refine ⟨h.reply, by simpa using same, ?_⟩
  have events : t.events = s.events ++ v.events := h.events
  simp [emit_events, lost, events]

theorem Veiled.whenConnected {act bare : Reply × Loopback} (h : Veiled s act bare) :
    Veiled s (s.whenConnected act) (s.face.whenConnected bare) := by
  unfold Loopback.whenConnected
  rw [show s.face.connected = s.connected from rfl]
  split
  · exact h
  · exact .refl s _

@[simp] theorem emit_subscriptions (s : Loopback) (event : EngineEvent) :
    (s.emit event).subscriptions = s.subscriptions := by
  unfold emit send
  split <;> rfl

/-- What a publisher gets back does not depend on the mail. -/
theorem delivery?_emit (s : Loopback) (event : EngineEvent) (topic : String) (qos : Qos) :
    (s.emit event).delivery? topic qos = s.delivery? topic qos := by
  unfold delivery?
  rw [emit_subscriptions]

/-- A publish sends its acknowledgement, and behind it what the subscriptions select. -/
theorem publish_veiled (s : Loopback) (topic : String) (payload : ByteArray) (qos : Qos) :
    Veiled s (s.publish topic payload qos) (s.face.publish topic payload qos) := by
  unfold publish
  dsimp only
  rw [delivery?_emit, delivery?_emit]
  have routed (u : Loopback) (id : MessageId) :
      delivery? { u with lastId := id } topic qos = u.delivery? topic qos := rfl
  rw [routed s, routed s.face, show s.face.delivery? topic qos = s.delivery? topic qos from rfl]
  cases s.delivery? topic qos with
  | none => exact (Veiled.of_fields s ..).emit _
  | some delivered => exact ((Veiled.of_fields s ..).emit _).emit _

/-- Starting the loop gives the mail away only if nobody listens. -/
theorem startLoop_veiled (heard : s.attached = true) : Veiled s s.startLoop s.face.startLoop := by
  unfold startLoop
  rw [show s.face.attached = s.attached from rfl, heard]
  cases at_ : s.receiver with
  | held =>
    rw [show s.face.receiver = .held by simp [face, at_]]
    exact ⟨rfl, by simp [face, at_], (List.append_nil _).symm⟩
  | running =>
    rw [show s.face.receiver = .running by simp [face, at_]]
    exact .refl s _
  | ended =>
    rw [show s.face.receiver = .running by simp [face, at_]]
    exact .refl s _
  | lost =>
    rw [show s.face.receiver = .lost by simp [face, at_]]
    exact .refl s _

theorem perform_veiled (heard : s.attached = true) (cmd : Command) :
    Veiled s (s.perform cmd) (s.face.perform cmd) := by
  cases cmd with
  | connect host port keepAlive => exact (Veiled.of_fields s ..).emit _
  | reconnect =>
    simp only [perform]
    rw [show s.face.endpoint = s.endpoint from rfl]
    split
    · exact (Veiled.of_fields s ..).emit _
    · exact .refl s _
  | disconnect => exact ((Veiled.of_fields s ..).emit _).whenConnected
  | publish topic payload qos retain => exact (publish_veiled s topic payload qos).whenConnected
  | subscribe filters qos => exact ((Veiled.of_fields s ..).emit _).whenConnected
  | unsubscribe filter => exact ((Veiled.of_fields s ..).emit _).whenConnected
  | startLoop => exact startLoop_veiled heard
  | stopLoop => exact .refl s _
  | destroy => exact .of_fields s ..

/-! ## Commands carried out one after another -/

/-- The engine when a loop that was started has ended, and its mailbox was taken back. -/
def halted (s : Loopback) : Loopback :=
  if s.receiver = .running ∨ s.receiver = .ended then { s with receiver := .held } else s

/-- What a command that was heard is answered with, if a loop that it waits for ends in time. -/
def answer (s : Loopback) (cmd : Command) : Reply × Loopback :=
  match s.refusal? (.command cmd) with
  | some status => if cmd = .destroy then s.halted.perform cmd else (.ofStatus status, s)
  | none => if awaitsLoop cmd then s.halted.perform cmd else s.perform cmd

/-- A command is heard and answered. -/
def carryOut (s : Loopback) (cmd : Command) : Reply × Loopback := (s.record (.command cmd)).answer cmd

/-- The engine after commands that it carried out one after another. -/
def played (s : Loopback) (cmds : List Command) : Loopback :=
  cmds.foldl (fun s cmd => (s.carryOut cmd).2) s

/-- What it has replied to each of them. -/
def replies (s : Loopback) : List Command → List Reply
  | [] => []
  | cmd :: cmds => (s.carryOut cmd).1 :: (s.carryOut cmd).2.replies cmds

theorem played_append (s : Loopback) (cmds more : List Command) :
    s.played (cmds ++ more) = (s.played cmds).played more :=
  List.foldl_append

theorem replies_append (s : Loopback) (cmds more : List Command) :
    s.replies (cmds ++ more) = s.replies cmds ++ (s.played cmds).replies more := by
  induction cmds generalizing s with
  | nil => rfl
  | cons cmd cmds ih => exact congrArg _ (ih _)

@[simp] theorem length_replies (s : Loopback) (cmds : List Command) :
    (s.replies cmds).length = cmds.length := by
  induction cmds generalizing s with
  | nil => rfl
  | cons cmd cmds ih => exact congrArg _ (ih _)

/-- An engine never answers anything else: a command that waits for the loop finds that it has ended. -/
theorem answer_of_finish (h : s.finish cmd = some (r, t)) : s.answer cmd = (r, t) := by
  rcases finish_eq_some h with ⟨status, refused, other, rfl, rfl⟩ | ⟨prompt, unrefused, performed⟩ |
      ⟨waits, willing, u, collected, performed⟩
  · simp [answer, refused, other]
  · simp [answer, unrefused, prompt, performed]
  · have halted : s.halted = u := by
      obtain ⟨still, rfl⟩ := collect?_eq_some_iff.mp collected
      simp [Loopback.halted, still]
    rw [performed, ← halted]
    unfold answer
    cases refused : s.refusal? (.command cmd) with
    | none => simp [waits]
    | some status =>
      have letGo : cmd = .destroy := willing.resolve_right (by simp [refused])
      simp [letGo]

theorem halted_face (s : Loopback) : s.halted.face = s.face.halted := by
  obtain ⟨_, _, _, _, _, _, _, _, _, receiver, _⟩ := s
  cases receiver <;> rfl

@[simp] theorem halted_events (s : Loopback) : s.halted.events = s.events := by
  unfold halted
  split <;> rfl

@[simp] theorem halted_attached (s : Loopback) : s.halted.attached = s.attached := by
  unfold halted
  split <;> rfl

theorem answer_veiled (heard : s.attached = true) (cmd : Command) :
    Veiled s (s.answer cmd) (s.face.answer cmd) := by
  have waited : Veiled s (s.halted.perform cmd) (s.face.halted.perform cmd) := by
    have veiled := perform_veiled (s := s.halted) ((halted_attached s).trans heard) cmd
    rw [halted_face] at veiled
    exact ⟨veiled.reply, veiled.face, (halted_events s) ▸ veiled.events⟩
  unfold answer
  rw [show s.face.refusal? (.command cmd) = s.refusal? (.command cmd) from rfl]
  cases s.refusal? (.command cmd) with
  | some status =>
    dsimp only
    split
    · exact waited
    · exact .refl s _
  | none =>
    dsimp only
    split
    · exact waited
    · exact perform_veiled heard cmd

/-- Engines that look alike answer alike, look alike afterwards, and send the same events. -/
theorem answer_congr (heard : s.attached = true) (same : s.face = v.face) (cmd : Command) :
    (s.answer cmd).1 = (v.answer cmd).1 ∧ (s.answer cmd).2.face = (v.answer cmd).2.face ∧
      ∃ sent, (s.answer cmd).2.events = s.events ++ sent ∧
        (v.answer cmd).2.events = v.events ++ sent := by
  have heard' : v.attached = true := (congrArg attached same).symm.trans heard
  have left := answer_veiled heard cmd
  have right := answer_veiled heard' cmd
  rw [same] at left
  exact ⟨left.reply.trans right.reply.symm, left.face.trans right.face.symm, _, left.events, right.events⟩

/-! ## What commands leave as it is -/

@[simp] theorem emit_calls (s : Loopback) (event : EngineEvent) : (s.emit event).calls = s.calls := by
  unfold emit send
  split <;> rfl

theorem perform_fields (s : Loopback) (cmd : Command) :
    (s.perform cmd).2.attached = s.attached ∧ (s.perform cmd).2.calls = s.calls := by
  cases cmd <;>
    simp only [perform, answerConnect, whenConnected, publish, subscribe, unsubscribe, startLoop] <;>
    grind [emit_attached, emit_calls]

/-- A command goes on record, and nobody stops listening. -/
theorem carryOut_fields (s : Loopback) (cmd : Command) :
    (s.carryOut cmd).2.attached = s.attached ∧
      (s.carryOut cmd).2.calls = s.calls ++ [.command cmd] := by
  have waited (u : Loopback) :
      (u.halted.perform cmd).2.attached = u.attached ∧ (u.halted.perform cmd).2.calls = u.calls := by
    obtain ⟨listens, calls⟩ := perform_fields u.halted cmd
    exact ⟨listens.trans (halted_attached u), calls.trans (by unfold halted; split <;> rfl)⟩
  unfold carryOut answer
  cases (s.record (.command cmd)).refusal? (.command cmd) with
  | some status =>
    dsimp only
    split
    · exact waited _
    · exact ⟨rfl, rfl⟩
  | none =>
    dsimp only
    split
    · exact waited _
    · exact perform_fields _ cmd

theorem played_fields (s : Loopback) (cmds : List Command) :
    (s.played cmds).attached = s.attached ∧ (s.played cmds).calls = s.calls ++ cmds.map .command := by
  induction cmds generalizing s with
  | nil => exact ⟨rfl, (List.append_nil _).symm⟩
  | cons cmd cmds ih =>
    obtain ⟨listens, calls⟩ := carryOut_fields s cmd
    obtain ⟨listens', calls'⟩ := ih (s.carryOut cmd).2
    refine ⟨listens'.trans listens, calls'.trans ?_⟩
    rw [calls, List.append_assoc]
    rfl

end BrokerSession.Loopback
