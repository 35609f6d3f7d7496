import BrokerSession.Proofs.Session.Replay
import Mathlib.Data.List.ReduceOption

/-!
# Commands do not depend on the delivery of events

A session gives the same commands to its engine, and settles its tickets in the same way, however the event loop
falls in between, whether its events find a listener or none, and whatever events are made up besides. Of the
loopback engine this makes a deterministic device: two runs with the same orders may differ in what the application
is told and in the phase of the session, and in nothing else once both are done.

No run gets stuck on the way. A command that waits for the loop has left a stop marker for it in the mailbox, so the
loop has something to do as long as the worker waits.

## Main definitions

* `Session.Quiet` - nothing happens by itself any more
* `Session.Lively` - what a worker waits for is on its way

## Main results

* `isIdle_of_quiet` - when nothing happens by itself any more, everything is done
* `exists_script` - the orders of a run say what it can bring
* `commands_of_schedules` - runs with the same orders agree on their commands and on the results
-/

namespace BrokerSession

namespace Loopback

variable {s t : Loopback} {cmd : Command}

/-- Whether the engine carries a command out once its loop has ended, instead of refusing it. -/
def heeds (s : Loopback) (cmd : Command) : Prop :=
  cmd = .destroy ∨ s.refusal? (.command cmd) = none

/-- A command that waits for the loop leaves a stop marker for it. -/
theorem stop_mem_call (waits : awaitsLoop cmd = true) (running : s.receiver = .running)
    (heeded : s.heeds cmd) : Mail.stop ∈ (s.call cmd).mailbox := by
  cases cmd with
  | stopLoop =>
    have unrefused : s.refusal? (.command .stopLoop) = none := heeded.resolve_left nofun
    simp [call, unrefused, record, running, send]
  | destroy => simp [call, record, running, send]
  | _ => cases waits

/-- A loop that is still at work has not taken a stop marker. -/
theorem stop_mem_deliver {reports : List Report} (h : s.deliver = some (reports, t))
    (running : t.receiver = .running) (marked : Mail.stop ∈ s.mailbox) : Mail.stop ∈ t.mailbox := by
  unfold deliver at h
  split at h
  · rename_i event rest still waits
    cases h
    rw [waits] at marked
    exact (List.mem_cons.mp marked).resolve_left nofun
  · cases h
    cases running
  · cases h

theorem failures_of_deliver {reports : List Report} (h : s.deliver = some (reports, t)) :
    t.failures = s.failures := by
  have same : t.face.failures = s.face.failures := congrArg Loopback.failures (face_of_deliver h)
  exact same

/-- A running loop with a stop marker in its mailbox has something to do. -/
theorem deliver_ne_none (running : s.receiver = .running) (marked : Mail.stop ∈ s.mailbox) :
    s.deliver ≠ none := by
  unfold deliver
  rw [running]
  cases waits : s.mailbox with
  | nil => rw [waits] at marked; cases marked
  | cons first rest => cases first <;> exact nofun

/-- An engine that does not answer waits for a running loop. -/
theorem awaits_of_finish_eq_none (h : s.finish cmd = none) :
    awaitsLoop cmd = true ∧ s.receiver = .running ∧ s.heeds cmd := by
  have waiting (taken : s.collect?.map (·.perform cmd) = none) : s.receiver = .running := by
    have uncollected := Option.map_eq_none_iff.mp taken
    unfold collect? at uncollected
    split at uncollected <;> first | assumption | cases uncollected
  unfold finish at h
  split at h
  · split at h
    · rename_i letGo
      exact ⟨letGo ▸ rfl, waiting h, .inl letGo⟩
    · cases h
  · rename_i unrefused
    split at h
    · rename_i waits
      exact ⟨waits, waiting h, .inr unrefused⟩
    · cases h

end Loopback

namespace Session

variable {c : Config} {s t : Session Loopback}

/-! ## No run gets stuck -/

/-- Whether nothing happens to a session by itself any more: neither the worker nor the event loop can take a step,
and no time is waited for. -/
def Quiet (s : Session Loopback) : Prop :=
  (process Loopback.engine).step s = none ∧ (process Loopback.engine).wake? s = none

/-- What a worker waits for is on its way. -/
structure Lively (s : Session Loopback) : Prop where
  order : s.Orderly
  /-- Only a worker with nothing left to do ends. -/
  served : s.queue.worker ≠ .alive → s.queue.backlog = []
  /-- Whoever waits for a running loop has left a stop marker for it. -/
  marked : ∀ x, s.exchange = some x → Loopback.awaitsLoop x.command = true →
    s.engine.receiver = .running → s.engine.heeds x.command → Loopback.Mail.stop ∈ s.engine.mailbox

namespace Lively

/-- A command that is given to the engine leaves a stop marker if it waits for the loop. -/
theorem marked_of_say {job : Job} {cmd : Command} {earlier : Option Status} :
    ∀ x, (s.say Loopback.engine job cmd earlier).exchange = some x →
      Loopback.awaitsLoop x.command = true → (s.engine.call cmd).receiver = .running →
      (s.engine.call cmd).heeds x.command → Loopback.Mail.stop ∈ (s.engine.call cmd).mailbox := by
  intro x new waits running heeded
  obtain rfl := Option.some.inj new
  rw [Loopback.call_receiver] at running
  refine Loopback.stop_mem_call waits running ?_
  simpa [Loopback.heeds, Loopback.refusal?] using heeded

theorem workerStep (h : s.Lively) (step : WorkerStep Loopback.engine s t) : t.Lively := by
  have order := h.order.workerStep step
  cases step with
  | dismiss free alive waits dismissed =>
    exact ⟨order, fun gone => absurd alive gone, fun x busy => by cases busy⟩
  | begin free alive waits opens =>
    exact ⟨order, fun gone => absurd alive gone, marked_of_say⟩
  | retire free alive empty closed =>
    exact ⟨order, fun _ => empty, fun x busy => by simp [free] at busy⟩
  | goOn busy answered follows => exact ⟨order, h.served, marked_of_say⟩
  | finish busy answered follows => exact ⟨order, h.served, fun x again => by cases again⟩

theorem move {m : Move Loopback} (h : s.Lively) (calm : m.Calm)
    (made : s.move? Loopback.engine c m = some t) : t.Lively := by
  have sound : m ≠ .crash := fun crash => by subst crash; exact calm
  have order := h.order.move sound made
  cases m with
  | order o =>
    obtain rfl := Option.some.inj made
    cases here : s.tornDown with
    | true => rwa [obey_of_tornDown here]
    | false =>
      rw [obey_eq here (h.order.taking here)] at order ⊢
      refine ⟨order, fun gone => ?_, h.marked⟩
      have taking := h.order.taking here
      simp [WorkQueue.isClosed, gone] at taking
  | close =>
    obtain ⟨-, rfl⟩ := eq_of_close made
    exact ⟨order, h.served, h.marked⟩
  | work => exact h.workerStep (workerStep_of_workerStep? made)
  | deliver =>
    obtain ⟨reports, engine, phase, journal, delivered, rfl⟩ := loopStep?_frame made
    refine ⟨order, h.served, fun x busy waits running heeded => ?_⟩
    -- The loop runs after the step, so it ran before and has taken an event.
    have before : s.engine.receiver = .running := by
      have taken : s.engine.deliver = some (reports, engine) := delivered
      unfold Loopback.deliver at taken
      split at taken <;> first | assumption | cases taken
    refine Loopback.stop_mem_deliver delivered running (h.marked x busy waits before ?_)
    simpa [Loopback.heeds, Loopback.refusal?, Loopback.failures_of_deliver delivered] using heeded
  | outside f =>
    obtain ⟨event, rfl⟩ := calm
    obtain rfl := Option.some.inj made
    refine ⟨order, h.served, fun x busy waits running heeded => ?_⟩
    have before : s.engine.receiver = .running := (Loopback.emit_receiver s.engine event).symm.trans running
    have marked := h.marked x busy waits before (by
      simpa [Loopback.heeds, Loopback.refusal?, Loopback.inject] using heeded)
    simp [Loopback.inject, Loopback.emit, Loopback.send, before, marked]
  | pass millis | clearDirectory =>
    obtain rfl := Option.some.inj made
    exact ⟨order, h.served, h.marked⟩
  | crash => exact calm.elim

theorem after {ms : List (Move Loopback)} (h : s.Lively) (calm : ∀ m ∈ ms, m.Calm) :
    (s.after Loopback.engine c ms).Lively :=
  after_induction h fun _ lively m among _ made => lively.move (calm m among) made

theorem of_establish {hosted : Bool} {fs : Files} {env : Environment} {clientId : String}
    {wanted : List Notice.Kind} {directory : Directory Listener} {engine engine' : Loopback}
    (established : establish Loopback.engine hosted fs env c clientId wanted directory engine =
      (.ok s, engine')) : s.Lively := by
  have order := orderly_of_establish established
  obtain ⟨staged, -, rfl⟩ := establish_eq_ok established
  exact ⟨order, fun gone => absurd rfl gone, fun x busy => by cases busy⟩

/-- When nothing happens by itself any more, everything is done. -/
theorem isIdle_of_quiet (h : s.Lively) (quiet : s.Quiet) : s.queue.isIdle = true := by
  obtain ⟨still, timeless⟩ := quiet
  obtain ⟨resting, silent⟩ : s.workerStep? Loopback.engine = none ∧ s.loopStep? Loopback.engine = none := by
    simpa [process] using still
  cases busy : s.exchange with
  | none =>
    have free : s.queue.active = none := by rw [h.order.working, busy]; rfl
    refine (WorkQueue.isIdle_iff _).mpr ⟨?_, free⟩
    -- A worker that is there would take the first job.
    by_cases alive : s.queue.worker = .alive
    · cases waits : s.queue.backlog with
      | nil => rfl
      | cons job rest =>
        simp [workerStep?, busy, WorkQueue.start?, alive, free, waits] at resting
    · exact h.served alive
  | some x =>
    have due : ¬ s.clock < x.due := by
      intro early
      simp [process, busy, early, Loopback.engine, List.reduceOption] at timeless
    have unanswered : s.engine.finish x.command = none := by
      simpa [workerStep?, busy, due, Loopback.engine] using resting
    obtain ⟨waits, running, heeded⟩ := Loopback.awaits_of_finish_eq_none unanswered
    have marked := h.marked x busy waits running heeded
    exact absurd (Option.map_eq_none_iff.mp silent) (Loopback.deliver_ne_none running marked)

end Lively

/-! ## One script for all runs -/

/-- Every ticket that orders draw has an outcome. -/
theorem mem_outcomes_of_lt_drawn {turns : List Turn} {running : Bool} {ticket k : Nat}
    (above : ticket ≤ k) (below : k < drawn running ticket (turns.map Turn.order)) :
    k ∈ (outcomes c running ticket turns).map Prod.fst := by
  induction turns generalizing running ticket with
  | nil => exact absurd below (Nat.not_lt.mpr above)
  | cons turn turns ih =>
    rw [outcomes, List.map_append, Turn.outcomes_ticket]
    by_cases later : ticket + turn.order.draws running ≤ k
    · exact List.mem_append_right _ (ih later below)
    · -- An order draws one ticket at most, so this is the one.
      have single : turn.order.draws running ≤ 1 := by
        cases turn.order <;> simp only [Order.draws] <;> grind
      refine List.mem_append_left _ (List.mem_replicate.mpr ⟨?_, ?_⟩) <;> omega

/-- What is known of a calm run over a fresh engine, and of the same run with a record of its engine. -/
theorem recorded_run {hosted : Bool} {fs : Files} {env : Environment} {clientId : String}
    {wanted : List Notice.Kind} {directory : Directory Listener} {failures : List (String × Status)}
    {delays : List (String × Nat)} {code : Int} {engine : Loopback}
    (established : establish Loopback.engine hosted fs env c clientId wanted directory
      (.fresh failures delays code) = (.ok s, engine))
    {ms : List (Move Loopback)} (calm : ∀ m ∈ ms, m.Calm) :
    let u := s.recording.after Loopback.engine.recorded c (ms.map Move.recorded)
    u.plain = s.after Loopback.engine c ms ∧ u.plain.Lively ∧ Replays s.engine u ∧
      ∃ done, Books c (issued ms) done u := by
  obtain ⟨listens, replays⟩ := Replays.of_establish established
  have books := Books.of_establish established
  have plain := plain_after (e := Loopback.engine) (c := c) (s := s.recording) ms
  refine ⟨plain, ?_, replays.after listens books.order calm, books.after fun crash => calm _ crash⟩
  rw [plain]
  exact (Lively.of_establish established).after calm

/-- What a run can bring over a given engine follows from its orders alone: there is one script of commands, and one
table of results, that every run keeps to and that a run whose worker is idle has come to the end of. -/
theorem exists_script {hosted : Bool} {fs : Files} {env : Environment} {clientId : String}
    {wanted : List Notice.Kind} {directory : Directory Listener} {failures : List (String × Status)}
    {delays : List (String × Nat)} {code : Int} {engine : Loopback}
    (established : establish Loopback.engine hosted fs env c clientId wanted directory
      (.fresh failures delays code) = (.ok s, engine)) (os : List Order) :
    ∃ (calls : List Loopback.Call) (results : List (Ticket × Resolution)),
      (∀ k < drawn false 0 os, (results.lookup k).isSome) ∧
      ∀ ms : List (Move Loopback), (∀ m ∈ ms, m.Calm) → issued ms = os →
        let t := s.after Loopback.engine c ms
        t.Lively ∧ t.nextTicket = drawn false 0 os ∧ t.engine.calls <+: calls ∧
          (∀ k r, t.resolution? k = some r → results.lookup k = some r) ∧
          (t.queue.isIdle = true →
            t.engine.calls = calls ∧ ∀ k, t.resolution? k = results.lookup k) := by
  refine ⟨s.engine.calls ++ ((script c s.engine os).flatMap fun d => d.1.task.block d.2).map .command,
    settlement c s.engine os, fun k below => ?_, fun ms calm same => ?_⟩
  · obtain ⟨turns, rfl, settled⟩ := exists_turns_of_settlement c s.engine os
    have drew := mem_outcomes_of_lt_drawn (c := c) (Nat.zero_le k) below
    obtain ⟨⟨_, r⟩, held, rfl⟩ := List.mem_map.mp ((settled.map Prod.fst).subset drew)
    rw [lookup_eq_some_of_mem (settlement_nodup c s.engine _) held]
    rfl
  · obtain ⟨plain, lively, replays, done, books⟩ := recorded_run (c := c) established calm
    rw [same] at books
    obtain ⟨said, settled, idle⟩ := books.script replays
    -- Without the record of its engine the run is the one over the engine itself.
    rw [← plain]
    generalize s.recording.after Loopback.engine.recorded c (ms.map Move.recorded) = u at *
    intro t
    refine ⟨lively, books.tickets, ?_, settled, fun atEnd => ⟨?_, (idle atEnd).2⟩⟩
    · rw [show t.engine.calls = _ from replays.calls]
      exact (List.prefix_append_right_inj _).mpr (said.map _)
    · rw [show t.engine.calls = _ from replays.calls, (idle atEnd).1]

/-- Runs with the same orders agree on their commands and on the results, over every set-up of the loopback engine
and however their events are delivered, dropped or made up: as far as both runs have come the calls of their engines
are the same, and so are the results of the tickets that both have settled. A run in which nothing happens by itself
any more has nothing left to do. Runs with nothing left to do agree on all calls and all results, and every ticket
that was drawn has one. -/
theorem commands_of_schedules {hosted : Bool} {fs : Files} {env : Environment} {clientId : String}
    {wanted : List Notice.Kind} {directory : Directory Listener} {failures : List (String × Status)}
    {delays : List (String × Nat)} {code : Int} {engine : Loopback}
    (established : establish Loopback.engine hosted fs env c clientId wanted directory
      (.fresh failures delays code) = (.ok s, engine))
    (ms ns : List (Move Loopback)) (calm : ∀ m ∈ ms, m.Calm) (calm' : ∀ n ∈ ns, n.Calm)
    (same : issued ms = issued ns) :
    let t := s.after Loopback.engine c ms
    let u := s.after Loopback.engine c ns
    (t.engine.calls <+: u.engine.calls ∨ u.engine.calls <+: t.engine.calls) ∧
      (∀ k r r', t.resolution? k = some r → u.resolution? k = some r' → r = r') ∧
      (t.Quiet → t.queue.isIdle = true) ∧ (u.Quiet → u.queue.isIdle = true) ∧
      (t.queue.isIdle = true → u.queue.isIdle = true →
        t.engine.calls = u.engine.calls ∧ t.nextTicket = u.nextTicket ∧
          ∀ k, t.resolution? k = u.resolution? k ∧
            (k < t.nextTicket → (t.resolution? k).isSome = true)) := by
  intro t u
  -- Both runs follow the script of their orders, and the script does not know the schedule.
  obtain ⟨calls, results, total, runs⟩ := exists_script established (issued ns)
  obtain ⟨lively, tickets, said, settled, atEnd⟩ := runs ms calm same
  obtain ⟨lively', tickets', said', settled', atEnd'⟩ := runs ns calm' rfl
  refine ⟨List.prefix_or_prefix_of_prefix said said', fun k r r' found found' => ?_,
    lively.isIdle_of_quiet, lively'.isIdle_of_quiet, fun idle idle' => ?_⟩
  · have one := settled k r found
    rw [settled' k r' found'] at one
    exact (Option.some.inj one).symm
  · obtain ⟨heard, resolved⟩ := atEnd idle
    obtain ⟨heard', resolved'⟩ := atEnd' idle'
    refine ⟨heard.trans heard'.symm, tickets.trans tickets'.symm, fun k => ⟨?_, fun drew => ?_⟩⟩
    · exact (resolved k).trans (resolved' k).symm
    · rw [resolved k]
      exact total k (tickets ▸ drew)

/-- A session that hears of its connection, and one whose directory was cleared first and whose loop comes late, over
an engine that refuses to publish. -/
theorem commands_of_cleared_directory :
    let c := Config.ofEndpoint "sensor" "broker" 1883 60
    let ms : List (Move Loopback) :=
      [.order (.request .connectConfigured), .work, .work, .work, .deliver,
        .order (.request (.publish "t" .empty .atLeastOnce false)), .work, .work,
        .order (.request .disconnect), .work, .work, .deliver, .deliver, .work]
    let ns : List (Move Loopback) :=
      [.clearDirectory, .order (.request .connectConfigured),
        .order (.request (.publish "t" .empty .atLeastOnce false)), .order (.request .disconnect),
        .work, .work, .work, .work, .work, .work, .work, .deliver, .deliver, .deliver, .work]
    ∃ s engine,
      establish Loopback.engine true .empty [] c "sensor" Notice.Kind.all .empty
        (.fresh [("publish", .payloadSize)] [] 0) = (.ok s, engine) ∧
      (s.after Loopback.engine c ms).journal =
        [.notice (.connected .success), .notice (.disconnected .requested)] ∧
      (s.after Loopback.engine c ns).journal = [] ∧
      (s.after Loopback.engine c ms).engine.calls = (s.after Loopback.engine c ns).engine.calls ∧
      ∀ k, (s.after Loopback.engine c ms).resolution? k = (s.after Loopback.engine c ns).resolution? k := by
  refine ⟨_, _, rfl, ?_⟩
  refine ⟨rfl, rfl, ?_⟩
  obtain ⟨-, -, -, -, atEnd⟩ := commands_of_schedules (show establish Loopback.engine true .empty []
      (.ofEndpoint "sensor" "broker" 1883 60) "sensor" Notice.Kind.all .empty
      (.fresh [("publish", .payloadSize)] [] 0) = (.ok _, _) from rfl)
    [.order (.request .connectConfigured), .work, .work, .work, .deliver,
      .order (.request (.publish "t" .empty .atLeastOnce false)), .work, .work,
      .order (.request .disconnect), .work, .work, .deliver, .deliver, .work]
    [.clearDirectory, .order (.request .connectConfigured),
      .order (.request (.publish "t" .empty .atLeastOnce false)), .order (.request .disconnect),
      .work, .work, .work, .work, .work, .work, .work, .deliver, .deliver, .deliver, .work]
    (by simp [Move.Calm]) (by simp [Move.Calm]) rfl
  obtain ⟨heard, -, resolved⟩ := atEnd rfl rfl
  exact ⟨heard, fun k => (resolved k).1⟩

end Session

end BrokerSession
