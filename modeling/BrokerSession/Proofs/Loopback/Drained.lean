import BrokerSession.Proofs.Loopback.Candid

/-!
# An engine leaves no mail behind

A session that talks to a loopback engine which refuses nothing starts a loop behind every connect, and stops it behind
every disconnect. The engine then emits something only while a loop is there or is about to be, and a stop marker waits
behind everything that was emitted. So a loop that ends has delivered everything, and as long as there is none nothing
waits and there is no connection. When the engine is let go no loop is left, and nothing gets lost.

## Main definitions

* `Loopback.Drained` - an engine without mail that nobody will take

## Main results

* `Drained.begin`, `Drained.startLoop`, `Drained.stopLoop`, `Drained.started`, `Drained.stopped`, `Drained.destroyed` -
  the commands of a session leave no mail behind
* `Drained.event`, `Drained.marker` - nor does the loop
-/

namespace BrokerSession.Loopback

variable {s t v : Loopback} {said next : Option Command} {cmd : Command} {r : Reply}

/-- An engine without mail that nobody will take, given the command that it has heard and not answered. -/
structure Drained (said : Option Command) (s : Loopback) : Prop where
  candid : s.Candid said
  /-- Without a loop nothing waits and there is no connection, unless the loop is being started. -/
  idle : s.receiver = .held → said ≠ some .startLoop → s.mailbox = [] ∧ s.connected = false
  /-- A loop that has ended has left nothing behind. -/
  ended : s.receiver = .ended → s.mailbox = []
  /-- A stop marker waits behind everything else. -/
  behind : .stop ∈ s.mailbox → s.mailbox.getLast? = some .stop
  /-- The engine is let go without a loop. -/
  parted : said = some .destroy → s.receiver = .held

namespace Drained

/-- Unless a loop is being stopped there is no stop marker, and no loop that has ended. -/
theorem of_candid (candid : t.Candid next) (quiet : next ≠ some .stopLoop)
    (idle : t.receiver = .held → next ≠ some .startLoop → t.mailbox = [] ∧ t.connected = false)
    (parted : next = some .destroy → t.receiver = .held) : t.Drained next where
  candid := candid
  idle := idle
  ended ended := absurd (candid.ended ended) quiet
  behind marked := absurd marked (List.count_eq_zero.mp (candid.stops_eq_zero quiet))
  parted := parted

theorem unended (h : s.Drained said) (quiet : said ≠ some .stopLoop) : s.receiver ≠ .ended :=
  fun ended => quiet (h.candid.ended ended)

/-- Nothing waits once no loop runs, unless one is being started. -/
theorem mailbox_eq_nil (h : s.Drained said) (still : s.receiver ≠ .running) (other : said ≠ some .startLoop) :
    s.mailbox = [] := by
  cases at_ : s.receiver with
  | held => exact (h.idle at_ other).1
  | ended => exact h.ended at_
  | running => exact absurd at_ still
  | lost => exact absurd at_ h.candid.willing.kept

/-! ## What the engine is told -/

/-- Only a command that waits for a running loop leaves a trace in the mailbox. -/
theorem call_eq_record (prompt : awaitsLoop cmd = true → s.receiver ≠ .running) :
    s.call cmd = s.record (.command cmd) := by
  cases cmd with
  | stopLoop | destroy => simp [call, record, prompt rfl]
  | _ => rfl

/-- The engine hears the first command of a task. -/
theorem begin (h : s.Drained none) (opens : cmd ≠ .startLoop ∧ cmd ≠ .stopLoop)
    (parts : cmd = .destroy → s.receiver = .held) : (s.call cmd).Drained (some cmd) := by
  have prompt (waits : awaitsLoop cmd = true) : s.receiver ≠ .running := by
    cases cmd with
    | destroy => simp [parts rfl]
    | stopLoop => exact absurd rfl opens.2
    | _ => cases waits
  have same : Alike s (s.record (.command cmd)) := ⟨rfl, rfl, rfl, rfl, rfl, rfl, rfl⟩
  rw [call_eq_record prompt]
  refine of_candid (same.candid h.candid ?_) ?_ (fun held _ => h.idle held nofun) fun letGo => ?_
  · simp [opens.2]
  · simp [opens.2]
  · exact parts (Option.some.inj letGo)

/-- A connect was accepted, and the loop is to be started. -/
theorem startLoop {there : Bool} (h : s.Drained said) (quiet : said ≠ some .stopLoop) (told : Told s t there) :
    (t.call .startLoop).Drained (some .startLoop) := by
  have alike : Alike t (t.call .startLoop) := alike_call rfl
  have candid : t.Candid said := told.candid h.candid Iff.rfl fun stop => absurd stop quiet
  refine of_candid (alike.candid candid ?_) nofun (fun _ other => absurd rfl other) nofun
  simp [quiet]

/-- A disconnect was answered, and the loop is to be stopped. -/
theorem stopLoop (h : s.Drained (some .disconnect)) (answered : s.finish .disconnect = some (r, t)) :
    (t.call .stopLoop).Drained (some .stopLoop) := by
  obtain ⟨cut, alike⟩ := finish_disconnect h.candid.willing answered
  have candid : t.Candid (some .disconnect) := by
    rcases alike with same | told
    · exact same.candid h.candid Iff.rfl
    · exact told.candid h.candid Iff.rfl fun _ => rfl
  have receiver : t.receiver = s.receiver := by
    rcases alike with same | told
    · exact same.receiver
    · exact told.receiver
  have called := candid.callStopLoop (by simp) cut
  by_cases running : t.receiver = .running
  · have sent : t.call .stopLoop = { t.record (.command .stopLoop) with mailbox := t.mailbox ++ [.stop] } := by
      rw [candid.willing.call_stopLoop, if_pos running]
      simp [send, record, running]
    rw [sent] at called ⊢
    refine ⟨called, fun held => ?_, fun ended => ?_, fun _ => by simp, by simp⟩
    · exact absurd (running.symm.trans held) (by decide)
    · exact absurd (running.symm.trans ended) (by decide)
  · rw [call_eq_record fun _ => running] at called ⊢
    -- Without a loop there was no connection, so nothing was emitted.
    have nothing : t.mailbox = [] := by
      have unended : s.receiver ≠ .ended := h.unended (by simp)
      have held : s.receiver = .held := by
        have kept := h.candid.willing.kept
        rw [receiver] at running
        cases at_ : s.receiver <;> simp_all
      obtain ⟨none, unconnected⟩ := h.idle held (by simp)
      have performed := h.candid.willing.eq_perform rfl answered
      simp only [perform, whenConnected, unconnected, Bool.false_eq_true, if_false] at performed
      cases performed
      exact none
    refine ⟨called, fun _ _ => ⟨nothing, cut⟩, fun _ => nothing, fun marked => ?_, by simp⟩
    rw [show (t.record (.command .stopLoop)).mailbox = [] from nothing] at marked
    cases marked

/-! ## What the engine has answered -/

/-- The loop was started. -/
theorem started (h : s.Drained (some .startLoop)) (answered : s.finish .startLoop = some (r, t)) : t.Drained none := by
  obtain ⟨candid, running⟩ := h.candid.started nofun
  rw [← finish_startLoop h.candid.willing answered] at candid running
  refine of_candid candid nofun (fun held => ?_) nofun
  exact absurd (running.symm.trans held) (by decide)

/-- The loop was stopped. -/
theorem stopped (h : s.Drained (some .stopLoop)) (answered : s.finish .stopLoop = some (r, t)) : t.Drained none := by
  obtain ⟨still, rfl⟩ := finish_stopLoop h.candid.willing answered
  refine of_candid (h.candid.stopped still) nofun (fun _ _ => ⟨?_, h.candid.cut rfl⟩) nofun
  exact h.mailbox_eq_nil still nofun

/-- A connect was refused, and nothing has changed. -/
theorem refused (h : s.Drained said) (quiet : said ≠ some .stopLoop) (other : said ≠ some .startLoop) :
    s.Drained none := by
  have same : Alike s s := ⟨rfl, rfl, rfl, rfl, rfl, rfl, rfl⟩
  refine of_candid (same.candid h.candid ?_) nofun (fun held _ => h.idle held other) nofun
  simp [quiet]

/-- Without a connection there is nothing to say about messages and subscriptions. -/
theorem eq_of_unconnected (willing : s.Willing) (unconnected : s.connected = false)
    (answered : s.finish cmd = some (r, t))
    (message : (∃ topic payload qos retain, cmd = .publish topic payload qos retain) ∨
      (∃ filters qos, cmd = .subscribe filters qos) ∨ ∃ filter, cmd = .unsubscribe filter) : t = s := by
  rcases message with ⟨topic, payload, qos, retain, rfl⟩ | ⟨filters, qos, rfl⟩ | ⟨filter, rfl⟩ <;>
    · have performed := willing.eq_perform rfl answered
      simp only [perform, whenConnected, unconnected, Bool.false_eq_true, if_false] at performed
      exact (Prod.mk.inj performed).2.symm

/-- A request about messages was answered. -/
theorem message (h : s.Drained (some cmd)) (answered : s.finish cmd = some (r, t))
    (message : (∃ topic payload qos retain, cmd = .publish topic payload qos retain) ∨
      (∃ filters qos, cmd = .subscribe filters qos) ∨ ∃ filter, cmd = .unsubscribe filter) : t.Drained none := by
  have same := finish_message h.candid.willing answered message
  have other : cmd ≠ .startLoop ∧ cmd ≠ .stopLoop := by
    rcases message with ⟨_, _, _, _, rfl⟩ | ⟨_, _, rfl⟩ | ⟨_, rfl⟩ <;> simp
  refine of_candid (same.candid h.candid (by simp [other.2])) nofun (fun held _ => ?_) nofun
  obtain ⟨none, unconnected⟩ := h.idle (same.receiver ▸ held) (by simp [other.1])
  rw [eq_of_unconnected h.candid.willing unconnected answered message]
  exact ⟨none, unconnected⟩

/-- The engine was let go: no loop is there, and nothing waits. -/
theorem destroyed (h : s.Drained (some .destroy)) (answered : s.finish .destroy = some (r, t)) :
    t.Drained none ∧ t.receiver = .held := by
  have held := h.parted rfl
  obtain ⟨none, unconnected⟩ := h.idle held nofun
  have left : t = { s with subscriptions := [] } := by
    rcases finish_eq_some answered with ⟨_, _, other, -⟩ | ⟨prompt, -⟩ | ⟨-, -, u, collected, performed⟩
    · exact absurd rfl other
    · cases prompt
    · obtain ⟨-, rfl⟩ := collect?_eq_some_iff.mp collected
      rw [if_neg (by simp [held])] at performed
      rw [show t = { s with subscriptions := [], connected := false } from congrArg Prod.snd performed, ← unconnected]
  have same : Alike s t := by
    rw [left]
    exact ⟨rfl, rfl, rfl, rfl, rfl, rfl, rfl⟩
  refine ⟨of_candid (same.candid h.candid (by simp)) nofun (fun _ _ => ?_) nofun, same.receiver.trans held⟩
  rw [left]
  exact ⟨none, unconnected⟩

/-! ## What the loop does -/

/-- The loop takes an event out of the mailbox. -/
theorem event {event : EngineEvent} {rest : List Mail} (h : s.Drained said) (running : s.receiver = .running)
    (waits : s.mailbox = .event event :: rest) : ({ s with mailbox := rest } : Loopback).Drained said := by
  refine ⟨(h.candid.event waits).1, fun held => ?_, fun ended => ?_, fun marked => ?_, h.parted⟩
  · exact absurd (running.symm.trans held) (by decide)
  · exact absurd (running.symm.trans ended) (by decide)
  · have last := h.behind (by rw [waits]; exact List.mem_cons_of_mem _ marked)
    obtain ⟨first, rest, rfl⟩ := List.exists_cons_of_ne_nil (List.ne_nil_of_mem marked)
    rwa [waits, List.getLast?_cons_cons] at last

/-- The loop comes to its stop marker, which is the last thing in the mailbox. -/
theorem marker {rest : List Mail} (h : s.Drained said) (waits : s.mailbox = .stop :: rest) :
    rest = [] ∧ ({ s with mailbox := rest, receiver := .ended } : Loopback).Drained said := by
  obtain ⟨stopping, candid⟩ := h.candid.marker waits
  have none : rest = [] := by
    cases rest with
    | nil => rfl
    | cons first rest =>
      -- There would be two markers.
      have last := h.behind (by rw [waits]; exact List.mem_cons_self)
      rw [waits, List.getLast?_cons_cons] at last
      have unmarked : ({ s with mailbox := first :: rest, receiver := .ended } : Loopback).stops = 0 :=
        candid.marked.resolve_right fun marked => by cases marked.2.1
      exact absurd (List.mem_of_getLast? last) (List.count_eq_zero.mp unmarked)
  refine ⟨none, candid, nofun, fun _ => none, fun marked => ?_, fun letGo => ?_⟩
  · rw [show ({ s with mailbox := rest, receiver := .ended } : Loopback).mailbox = [] from none] at marked
    cases marked
  · rw [stopping] at letGo
    cases letGo

end Drained

end BrokerSession.Loopback
