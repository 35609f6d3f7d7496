import BrokerSession.Proofs.Loopback

/-!
# An engine that tells what happens

A loopback engine that refuses nothing tells everything that happens to its connection: the last event about the
connection that waits in the mailbox is right about it. Before the first connect there is no connection and no
event that speaks of one. At most one stop marker waits, and only while the engine is asked to stop its loop; by
then there is no connection any more.

## Main definitions

* `Loopback.Candid` - the facts above, given the command that the engine has heard and not answered

## Main results

* `Alike.candid`, `Told.candid` - what happens to the connection is told
* `Candid.callStopLoop`, `Candid.stopped`, `Candid.started` - the loop is stopped and started in order
* `Candid.event`, `Candid.marker` - the loop takes the mail in order
-/

namespace BrokerSession.Loopback

variable {s t : Loopback} {said next : Option Command}

/-- What holds of an engine that refuses nothing, given the command that it has heard and not answered. -/
structure Candid (said : Option Command) (s : Loopback) : Prop where
  willing : s.Willing
  /-- The last event about the connection is right. -/
  news : ∀ there ∈ s.tidings.getLast?, there = s.connected
  /-- There is no connection before the first connect. -/
  untried : s.endpoint = none → s.connected = false ∧ true ∉ s.tidings
  /-- A stop marker belongs to the stop that is asked for. -/
  marked : s.stops = 0 ∨ said = some .stopLoop ∧ s.receiver = .running ∧ s.stops = 1
  /-- A loop that has ended was asked to. -/
  ended : s.receiver = .ended → said = some .stopLoop
  /-- The loop is stopped after the connection. -/
  cut : said = some .stopLoop → s.connected = false

/-- When nothing happens to the connection or the loop, and no stop is asked for or answered, an engine stays
candid. -/
theorem Alike.candid (same : Alike s t) (h : s.Candid said)
    (steady : next = some .stopLoop ↔ said = some .stopLoop) : t.Candid next where
  willing := same.willing h.willing
  news := by rw [same.tidings, same.connected]; exact h.news
  untried := by rw [same.endpoint, same.tidings, same.connected]; exact h.untried
  marked := by rw [same.stops, same.receiver, steady]; exact h.marked
  ended := by rw [same.receiver, steady]; exact h.ended
  cut := by rw [same.connected, steady]; exact h.cut

theorem Told.candid {there : Bool} (told : Told s t there) (h : s.Candid said)
    (steady : next = some .stopLoop ↔ said = some .stopLoop)
    (cut : said = some .stopLoop → there = false) : t.Candid next where
  willing := told.willing h.willing
  news := by
    intro last hlast
    rw [told.tidings, List.getLast?_concat] at hlast
    rw [told.connected]
    exact (Option.some.inj hlast).symm
  untried := by
    intro none
    obtain ⟨before, gone⟩ := told.tried none
    refine ⟨told.connected.trans gone, ?_⟩
    rw [told.tidings, gone]
    intro spoken
    rcases List.mem_append.mp spoken with old | new
    · exact (h.untried before).2 old
    · cases List.mem_singleton.mp new
  marked := by rw [told.stops, told.receiver, steady]; exact h.marked
  ended := by rw [told.receiver, steady]; exact h.ended
  cut := by rw [told.connected, steady]; exact cut

theorem Candid.stops_eq_zero (h : s.Candid said) (quiet : said ≠ some .stopLoop) : s.stops = 0 :=
  h.marked.resolve_right fun marked => quiet marked.1

theorem Candid.callStopLoop (h : s.Candid said) (quiet : said ≠ some .stopLoop)
    (cut : s.connected = false) : (s.call .stopLoop).Candid (some .stopLoop) := by
  have unmarked := h.stops_eq_zero quiet
  have recorded : Alike s (s.record (.command .stopLoop)) := ⟨rfl, rfl, rfl, rfl, rfl, rfl, rfl⟩
  rw [h.willing.call_stopLoop]
  -- Only a loop that runs is sent a marker.
  by_cases running : s.receiver = .running
  · rw [if_pos running]
    have sent : (s.record (.command .stopLoop)).send .stop =
        { s.record (.command .stopLoop) with mailbox := s.mailbox ++ [.stop] } := by
      simp [send, record, running]
    have same : ((s.record (.command .stopLoop)).send .stop).tidings = s.tidings := by
      rw [sent]
      simp [tidings]
    have one : ((s.record (.command .stopLoop)).send .stop).stops = 1 := by
      have none : s.mailbox.count .stop = 0 := unmarked
      rw [sent]
      simp [stops, none]
    refine ⟨?_, ?_, ?_, .inr ⟨rfl, ?_, one⟩, fun _ => rfl, fun _ => ?_⟩
    · rw [sent]
      exact ⟨h.willing.failures, h.willing.attached, h.willing.kept⟩
    · rw [same, sent]
      exact h.news
    · rw [same, sent]
      exact h.untried
    · rw [sent]
      exact running
    · rw [sent]
      exact cut
  · rw [if_neg running]
    exact ⟨recorded.willing h.willing, h.news, h.untried, .inl unmarked, fun _ => rfl, fun _ => cut⟩

theorem Candid.stopped (h : s.Candid said) (still : s.receiver ≠ .running) :
    ({ s with receiver := .held } : Loopback).Candid none := by
  refine ⟨⟨h.willing.failures, h.willing.attached, fun lost => by cases lost⟩, h.news, h.untried, .inl ?_, ?_, ?_⟩
  · exact h.marked.resolve_right fun marked => still marked.2.1
  · intro ended
    cases ended
  · intro stop
    cases stop

theorem Candid.started (h : s.Candid said) (quiet : said ≠ some .stopLoop) :
    (if s.receiver = .held then { s with receiver := .running } else s : Loopback).Candid none ∧
      (if s.receiver = .held then { s with receiver := .running } else s : Loopback).receiver =
        .running := by
  have unmarked := h.stops_eq_zero quiet
  have running : ({ s with receiver := .running } : Loopback).Candid none := by
    refine ⟨⟨h.willing.failures, h.willing.attached, fun lost => by cases lost⟩, h.news, h.untried, .inl unmarked, ?_,
      ?_⟩
    · intro ended
      cases ended
    · intro stop
      cases stop
  by_cases held : s.receiver = .held
  · rw [if_pos held]
    exact ⟨running, rfl⟩
  · rw [if_neg held]
    -- The loop is neither lost nor ended, for an ended one was asked to.
    have kept := h.willing.kept
    have unended : s.receiver ≠ .ended := fun ended => quiet (h.ended ended)
    have already : s.receiver = .running := by
      cases at_ : s.receiver <;> simp_all
    refine ⟨?_, already⟩
    rw [← already] at running
    exact running

/-- The loop takes an event out of the mailbox. What it says of the connection is right if nothing more is said
of it. -/
theorem Candid.event {event : EngineEvent} {rest : List Mail} (h : s.Candid said)
    (waits : s.mailbox = .event event :: rest) :
    ({ s with mailbox := rest } : Loopback).Candid said ∧
      s.tidings = event.link?.toList ++ ({ s with mailbox := rest } : Loopback).tidings := by
  have spoken : s.tidings =
      event.link?.toList ++ ({ s with mailbox := rest } : Loopback).tidings := by
    cases link : event.link? <;> simp [tidings, waits, link]
  have marks : ({ s with mailbox := rest } : Loopback).stops = s.stops := by
    simp [stops, waits]
  refine ⟨⟨⟨h.willing.failures, h.willing.attached, h.willing.kept⟩, ?_, ?_, ?_, h.ended, h.cut⟩, spoken⟩
  · -- What is last among the later events is last among all of them.
    intro there last
    refine h.news there ?_
    rw [spoken, List.getLast?_append, last]
    rfl
  · intro untried
    obtain ⟨unconnected, silent⟩ := h.untried untried
    refine ⟨unconnected, fun later => silent ?_⟩
    rw [spoken]
    exact List.mem_append_right _ later
  · rw [marks]
    exact h.marked

theorem Candid.marker {rest : List Mail} (h : s.Candid said) (waits : s.mailbox = .stop :: rest) :
    said = some .stopLoop ∧ ({ s with mailbox := rest, receiver := .ended } : Loopback).Candid said := by
  have marks : s.stops = rest.count .stop + 1 := by simp [stops, waits]
  have same : ({ s with mailbox := rest, receiver := .ended } : Loopback).tidings = s.tidings := by
    simp [tidings, waits]
  rcases h.marked with none | ⟨stopping, running, one⟩
  · -- The marker in front is one, so they are not none.
    omega
  · have none : rest.count .stop = 0 := by omega
    refine ⟨stopping, ⟨h.willing.failures, h.willing.attached, fun lost => by cases lost⟩, ?_, ?_, .inl none,
      fun _ => stopping, h.cut⟩
    · rw [same]
      exact h.news
    · rw [same]
      exact h.untried

end BrokerSession.Loopback
