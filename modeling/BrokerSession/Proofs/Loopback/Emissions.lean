import BrokerSession.Proofs.Loopback.Deliveries

/-!
# What commands make an engine emit

A loopback engine that refuses nothing carries out every command that it is given, one after another. What it emits for
a command it never takes back, and everything that it emits can be told to an application as long as nothing is
published without a topic.

A connection does not go away without a word. As long as an engine that accepts connects is not let go, only a
disconnect ends its connection, and an event says so.

## Main definitions

* `Command.IsNamed` - a command that publishes nothing without a topic
* `Loopback.Emits` - what a command that is carried out has to do with the connection and with what is emitted

## Main results

* `Loopback.emits_carryOut` - every command is carried out so
* `Loopback.events_of_played` - what was emitted is never taken back, and can be told
* `Loopback.exists_disconnect_of_cut` - an engine that has lost its connection has said so
-/

namespace BrokerSession

/-- Whether a command publishes nothing without a topic. -/
def Command.IsNamed : Command → Prop
  | publish topic .. => topic ≠ ""
  | _ => True

namespace Loopback

variable {s t v : Loopback} {cmd : Command} {r : Reply} {event : EngineEvent} {emitted : List EngineEvent}

/-- A command has made an engine emit something, and the engine is ready for the next one. -/
structure Emits (s : Loopback) (cmd : Command) (emitted : List EngineEvent) (t : Loopback) : Prop where
  willing : t.Willing
  events : t.events = s.events ++ emitted
  connectCode : t.connectCode = s.connectCode
  told : cmd.IsNamed → ∀ event ∈ emitted, event.notice? ≠ none
  /-- The end of a connection is announced. -/
  parts : cmd = .disconnect → s.connected = true → .disconnect 0 ∈ emitted
  /-- Nothing else ends a connection, if connects are accepted. -/
  stays : cmd ≠ .disconnect → cmd ≠ .destroy → s.connectCode = 0 → s.connected = true → t.connected = true
  accepted : t.connected = true → s.connected = true ∨ s.connectCode = 0

/-- What a command is answered with can be told. -/
theorem notice?_of_sent (named : cmd.IsNamed) (among : event ∈ s.sent cmd r) : event.notice? ≠ none := by
  cases cmd with
  | connect | reconnect | disconnect | subscribe | unsubscribe =>
    obtain rfl := List.mem_singleton.mp among
    simp [EngineEvent.notice?]
  | publish topic payload qos retain =>
    rcases List.mem_cons.mp among with rfl | routed
    · simp [EngineEvent.notice?]
    · obtain ⟨level, -, rfl⟩ := List.mem_map.mp routed
      have read := toMessage?_raw ⟨r.id, topic, payload, level, false⟩ named
      exact ne_of_eq_of_ne (congrArg (Option.map Notice.message) read) (by simp)
  | startLoop | stopLoop | destroy => cases among

theorem emits_perform (willing : s.Willing) (cmd : Command) :
    ∃ emitted, Emits s cmd emitted (s.perform cmd).2 := by
  have carries := carries_perform willing.kept willing.attached cmd
  refine ⟨_, ⟨?_, ?_, ?_⟩, carries.events, carries.connectCode, fun named event among => ?_, ?_, ?_, ?_⟩
  · simpa using willing.failures
  · exact carries.attached.trans willing.attached
  · rw [carries.receiver]
    split
    · decide
    · exact willing.kept
  · split at among
    · exact notice?_of_sent named among
    · cases among
  · rintro rfl there
    simp [perform, whenConnected, there, sent, Reply.ofStatus, Status.isSuccess]
  · intro stays kept accepts there
    cases cmd with
    | disconnect => exact absurd rfl stays
    | destroy => exact absurd rfl kept
    | connect | reconnect | publish | subscribe | unsubscribe | startLoop | stopLoop =>
      simp only [perform, answerConnect, whenConnected, publish, subscribe, unsubscribe, startLoop]
      grind [emit_connected]
  · intro there
    cases cmd <;>
      simp only [perform, answerConnect, whenConnected, publish, subscribe, unsubscribe, startLoop] at there <;>
      grind [emit_connected]

/-- A willing engine carries every command out, as it is or with its loop halted. -/
theorem emits_carryOut (willing : s.Willing) (cmd : Command) :
    ∃ emitted, Emits s cmd emitted (s.carryOut cmd).2 := by
  have unrefused : (s.record (.command cmd)).refusal? (.command cmd) = none := by
    simp [refusal?, record, willing.failures]
  have ready : (s.record (.command cmd)).Willing := ⟨willing.failures, willing.attached, willing.kept⟩
  unfold carryOut answer
  rw [unrefused]
  by_cases waits : awaitsLoop cmd = true
  · have halted : (s.record (.command cmd)).halted.Willing ∧
        (s.record (.command cmd)).halted.connectCode = s.connectCode ∧
        (s.record (.command cmd)).halted.connected = s.connected := by
      unfold Loopback.halted
      split
      · exact ⟨⟨ready.failures, ready.attached, fun lost => by cases lost⟩, rfl, rfl⟩
      · exact ⟨ready, rfl, rfl⟩
    obtain ⟨ready, code, link⟩ := halted
    obtain ⟨emitted, performed⟩ := emits_perform ready cmd
    refine ⟨emitted, ?_⟩
    simp only [waits, if_true]
    exact ⟨performed.willing, performed.events.trans (by simp), performed.connectCode.trans code, performed.told,
      link ▸ performed.parts, link ▸ code ▸ performed.stays, link ▸ code ▸ performed.accepted⟩
  · obtain ⟨emitted, performed⟩ := emits_perform ready cmd
    refine ⟨emitted, ?_⟩
    simp only [waits, Bool.false_eq_true, if_false]
    exact ⟨performed.willing, performed.events, performed.connectCode, performed.told, performed.parts,
      performed.stays, performed.accepted⟩

/-! ## Commands one after another -/

/-- An engine stays willing, and has a connection only if it accepts connects. -/
theorem willing_played (willing : v.Willing) (accepts : v.connected = true → v.connectCode = 0)
    (cmds : List Command) :
    (v.played cmds).Willing ∧ ((v.played cmds).connected = true → (v.played cmds).connectCode = 0) := by
  induction cmds generalizing v with
  | nil => exact ⟨willing, accepts⟩
  | cons cmd cmds ih =>
    obtain ⟨emitted, carried⟩ := emits_carryOut willing cmd
    refine ih carried.willing fun there => ?_
    rw [carried.connectCode]
    exact (carried.accepted there).elim accepts id

/-- Commands only add to what was emitted, and all of it can be told. -/
theorem events_of_played (willing : v.Willing) (cmds : List Command) :
    ∃ emitted, (v.played cmds).events = v.events ++ emitted ∧
      ((∀ cmd ∈ cmds, cmd.IsNamed) → ∀ event ∈ emitted, event.notice? ≠ none) := by
  induction cmds generalizing v with
  | nil => exact ⟨[], (List.append_nil _).symm, fun _ => nofun⟩
  | cons cmd cmds ih =>
    obtain ⟨emitted, carried⟩ := emits_carryOut willing cmd
    obtain ⟨more, events, told⟩ := ih carried.willing
    refine ⟨emitted ++ more, ?_, fun named => ?_⟩
    · rw [← List.append_assoc, ← carried.events]
      exact events
    · obtain ⟨first, rest⟩ := List.forall_mem_cons.mp named
      exact List.forall_mem_append.mpr ⟨carried.told first, told rest⟩

/-- An engine that has lost its connection through commands, and was not let go, has said so. -/
theorem exists_disconnect_of_played {cmds : List Command} (willing : v.Willing) (accepts : v.connectCode = 0)
    (there : v.connected = true) (kept : .destroy ∉ cmds) (cut : (v.played cmds).connected = false) :
    ∃ emitted, (v.played cmds).events = v.events ++ emitted ∧ .disconnect 0 ∈ emitted := by
  induction cmds generalizing v with
  | nil => exact absurd (there.symm.trans cut) (by decide)
  | cons cmd cmds ih =>
    rw [List.mem_cons, not_or] at kept
    obtain ⟨emitted, carried⟩ := emits_carryOut willing cmd
    by_cases parts : cmd = .disconnect
    · obtain ⟨more, events, -⟩ := events_of_played carried.willing cmds
      refine ⟨emitted ++ more, ?_, List.mem_append_left _ (carried.parts parts there)⟩
      rw [← List.append_assoc, ← carried.events]
      exact events
    · have still := carried.stays parts (Ne.symm kept.1) accepts there
      obtain ⟨more, events, told⟩ := ih carried.willing (carried.connectCode.trans accepts) still kept.2 cut
      refine ⟨emitted ++ more, ?_, List.mem_append_right _ told⟩
      rw [← List.append_assoc, ← carried.events]
      exact events

/-- When commands leave an engine without a connection, and the engine was not let go, whoever had a connection in the
course of them has been sent an event about its end, whatever commands follow. -/
theorem exists_disconnect_of_cut {early late : List Command} (willing : v.Willing)
    (accepts : v.connected = true → v.connectCode = 0) (kept : .destroy ∉ late)
    (cut : (v.played (early ++ late)).connected = false) (there : (v.played early).connected = true)
    (more : List Command) :
    ∃ sent, (v.played (early ++ late ++ more)).events = (v.played early).events ++ sent ∧ .disconnect 0 ∈ sent := by
  obtain ⟨ready, accepted⟩ := willing_played willing accepts early
  rw [played_append] at cut
  obtain ⟨sent, parted, among⟩ := exists_disconnect_of_played ready (accepted there) there kept cut
  have still : ((v.played early).played late).Willing := (willing_played ready accepted late).1
  obtain ⟨later, events, -⟩ := events_of_played still more
  refine ⟨sent ++ later, ?_, List.mem_append_left _ among⟩
  rw [played_append, played_append, events, parted, List.append_assoc]

end Loopback

end BrokerSession
