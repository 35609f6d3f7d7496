import BrokerSession.Proofs.Session.Registration
import BrokerSession.Proofs.Session.Settling

/-!
# Requests to a session without a worker

When a job crashes, the worker goes with it, and nothing that the owner asks for is handed to anybody from then on. The
engine does not hear of it, and the owner is told that the queue is closed. But where the session stands is written down
before the queue is asked, and is not taken back: a request that asks for a connection leaves the session connecting and
meant to run, and one that ends it leaves the session disconnecting and meant to rest, although neither was queued.

## Main definitions

* `Session.Deserted` - the worker has crashed, and nothing is at work

## Main results

* `run_of_isClosed` - everything that a refused request does
* `standing_request_eq_self_iff` - the requests that leave a session where it stands
* `Distinct.after` - in every run a ticket is settled at most once
* `Deserted.move`, `Deserted.after` - a session without a worker stays so, and its engine hears nothing
* `refused_of_crashed` - what comes of a request to such a session
* `connecting_of_crashed` - a session that waits for a connection that nobody was asked for
-/

namespace BrokerSession

namespace Session

variable {σ : Type} {e : Engine σ} {c : Config} {s t : Session σ}

/-! ## Refused requests -/

/-- Everything that a request does to a session whose queue is closed: the ticket is settled and a warning is written,
and the session is left where the request would have it. -/
theorem run_of_isClosed {op : Operation} (closed : s.queue.isClosed = true)
    (asks : op = .disconnect → s.standing.running = true) :
    op.run c s = (s.nextTicket, { s with
      standing := (Order.request op).standing s.standing
      resolved := s.resolved ++ [(s.nextTicket, .closed)]
      journal := s.journal ++ [.warning (.commandNotQueued .queueClosed) none]
      nextTicket := s.nextTicket + 1 }) := by
  cases op with
  | disconnect =>
    have runs := asks rfl
    simp [Operation.run, disconnect, endConnection, runs, submit_of_isClosed, closed, setRunning, setPhase,
      Order.standing]
  | _ =>
    simp [Operation.run, connect, reconnect, publish, subscribe, unsubscribe, start, submit_of_isClosed, closed,
      setRunning, setPhase, Order.standing, Order.connects]

/-- A request leaves a session where it stands if it does not end the connection, and asks for one only of a session
that waits for one already. -/
theorem standing_request_eq_self_iff {op : Operation} {s : Standing} (asks : op = .disconnect → s.running = true) :
    (Order.request op).standing s = s ↔
      op ≠ .disconnect ∧ ((Order.request op).connects = true → s = ⟨.connecting, true⟩) := by
  cases op with
  | disconnect =>
    obtain ⟨phase, running⟩ := s
    obtain rfl : running = true := asks rfl
    simp [Order.standing]
  | _ => simp [Order.standing, Order.connects, eq_comm]

/-! ## Tickets in a run -/

namespace Distinct

theorem submit (h : s.Distinct) (task : Task) : (s.submit task).2.Distinct := h.asked (asked_submit s task).2

theorem start (h : s.Distinct) (task : Task) : (s.start task).2.Distinct :=
  submit (s := (s.setRunning true).setPhase .connecting) (h.keep rfl rfl) task

theorem endConnection (h : s.Distinct) (teardown : Bool) : (s.endConnection teardown).2.Distinct := by
  unfold Session.endConnection
  split
  · exact submit (s := (s.setRunning false).setPhase .disconnecting) (h.keep rfl rfl) _
  · refine h.draw rfl ?_
    simp only [tickets, Session.draw, resolve, pending, List.map_append, List.append_assoc]
    exact List.perm_middle

theorem tearDown (h : s.Distinct) : s.tearDown.Distinct := by
  unfold Session.tearDown
  split
  · exact h
  · -- The ticket of the disconnect may be new; the last job has none.
    have ended : Distinct (if s.standing.running then
        (Session.endConnection { s with tornDown := true } true).2 else { s with tornDown := true }) := by
      split
      · exact (h.keep rfl rfl : Distinct { s with tornDown := true }).endConnection true
      · exact h.keep rfl rfl
    dsimp only
    split
    · rename_i taken
      obtain ⟨queue, handed, rfl⟩ := Option.map_eq_some_iff.mp taken
      simp only [WorkQueue.enqueue?, Option.ite_none_left_eq_some, Option.some.injEq] at handed
      obtain ⟨-, rfl⟩ := handed
      exact ended.keep (by simp [tickets, pending]) rfl
    · exact ended.keep rfl rfl

theorem obey (h : s.Distinct) (o : Order) : (s.obey c o).Distinct := by
  cases here : s.tornDown with
  | true => rwa [obey_of_tornDown here]
  | false =>
    cases o with
    | letGo => exact h.tearDown
    | mark =>
      simp only [Session.obey, here]
      exact h.asked (asked_mark s)
    | request op =>
      simp only [Session.obey, here]
      cases op with
      | disconnect => exact h.endConnection false
      | connect | connectConfigured | reconnect => exact h.start _
      | publish | subscribe | unsubscribe => exact h.submit _

theorem move {m : Move σ} (h : s.Distinct) (working : s.queue.active = s.exchange.map (·.job))
    (made : s.move? e c m = some t) : t.Distinct := by
  cases m with
  | order o =>
    obtain rfl := Option.some.inj made
    exact h.obey o
  | work => exact h.workerStep working (workerStep_of_workerStep? made)
  | crash =>
    obtain ⟨-, rfl⟩ := eq_of_crash made
    rw [crash_frame]
    refine h.keep ?_ rfl
    simp [tickets, pending, abandoned, WorkQueue.crash, List.map_filterMap, Function.comp_def]
  | _ =>
    obtain ⟨_, _, _, _, _, _, rfl⟩ := move?_frame made rfl
    exact h.keep rfl rfl

end Distinct

theorem Enrolled.working {cleared stranded : Prop} (h : s.Enrolled cleared stranded) :
    s.queue.active = s.exchange.map (·.job) := by
  by_cases alive : s.queue.worker = .alive
  · exact (h.order alive).working
  · obtain ⟨none, free⟩ := h.empty alive
    rw [abandoned, List.append_eq_nil_iff] at none
    rw [free]
    exact Option.toList_eq_nil_iff.mp none.1

/-- In every run of a session a ticket is settled at most once. -/
theorem Distinct.after (h : s.Distinct) (enrolled : s.Enrolled False False) (ms : List (Move σ)) :
    (s.after e c ms).Distinct := by
  have both : (∃ cleared stranded, (s.after e c ms).Enrolled cleared stranded) ∧ (s.after e c ms).Distinct := by
    refine after_induction (P := fun u => (∃ cleared stranded, u.Enrolled cleared stranded) ∧ u.Distinct)
      ⟨⟨_, _, enrolled⟩, h⟩ ?_
    rintro u ⟨⟨cleared, stranded, enrolled⟩, distinct⟩ m - v made
    exact ⟨⟨_, _, enrolled.move made⟩, distinct.move enrolled.working made⟩
  exact both.2

theorem distinct_of_establish {hosted : Bool} {fs : Files} {env : Environment} {clientId : String}
    {wanted : List Notice.Kind} {directory : Directory Listener} {given engine : σ}
    (established : establish e hosted fs env c clientId wanted directory given = (.ok s, engine)) : s.Distinct := by
  obtain ⟨staged, -, rfl⟩ := establish_eq_ok established
  exact ⟨List.nodup_nil, nofun⟩

/-! ## Sessions without a worker -/

/-- Whether neither the owner nor the engine has a part in a move. -/
def Move.isSilent : Move σ → Bool
  | order _ | deliver => false
  | _ => true

/-- The worker has crashed, and nothing is at work. -/
structure Deserted (s : Session σ) : Prop where
  crashed : s.queue.worker = .crashed
  idle : s.queue.active = none
  free : s.exchange = none

theorem Enrolled.deserted {cleared stranded : Prop} (h : s.Enrolled cleared stranded)
    (crashed : s.queue.worker = .crashed) : s.Deserted := by
  obtain ⟨-, free⟩ := h.empty (by simp [crashed])
  refine ⟨crashed, ?_, free⟩
  rw [h.working, free]
  rfl

namespace Deserted

theorem isClosed (h : s.Deserted) : s.queue.isClosed = true := by
  simp [WorkQueue.isClosed, h.crashed]

theorem workerStep? (h : s.Deserted) : s.workerStep? e = none := by
  simp [Session.workerStep?, h.free, WorkQueue.start?, WorkQueue.retire?, h.crashed]

/-- What is settled stays settled when something is asked of a session without a worker. -/
theorem resolved_obey (h : s.Deserted) (o : Order) : s.resolved <+: (s.obey c o).resolved := by
  have closed := h.isClosed
  cases here : s.tornDown with
  | true => simp [obey_of_tornDown here]
  | false =>
    cases o with
    | mark => simp [obey, here, mark, draw, enqueue?, WorkQueue.enqueue?, closed, resolve]
    | letGo =>
      cases running : s.standing.running <;>
        simp [obey, here, tearDown, endConnection, running, submit_of_isClosed, closed, setRunning, setPhase, enqueue?,
          WorkQueue.enqueue?, unregister, warn, note]
    | request op =>
      simp only [obey, here]
      by_cases spared : op = .disconnect ∧ s.standing.running = false
      · obtain ⟨rfl, rests⟩ := spared
        simp [Operation.run, disconnect, endConnection, rests, draw, resolve]
      · rw [if_neg Bool.false_ne_true, run_of_isClosed closed]
        · exact List.prefix_append ..
        · intro same
          simpa [same] using spared

/-- Whatever happens to a session without a worker, it stays without one. What is settled stays settled, no command is
given to the engine, and the session stays where it stands unless the engine reports or something is asked of it. -/
theorem move {s t : Session (Recorded σ)} {m : Move σ} (h : s.Deserted)
    (made : s.move? e.recorded c m.recorded = some t) :
    t.Deserted ∧ s.resolved <+: t.resolved ∧ t.engine.heard = s.engine.heard ∧
      (m.isSilent = true → t.standing = s.standing) := by
  cases m with
  | order o =>
    obtain rfl := Option.some.inj made
    obtain ⟨queue, exchange, engine⟩ := obey_of_isClosed (c := c) h.isClosed o
    exact ⟨⟨queue ▸ h.crashed, queue ▸ h.idle, exchange ▸ h.free⟩, h.resolved_obey o, by rw [engine], nofun⟩
  | work =>
    rw [show s.move? e.recorded c _ = s.workerStep? e.recorded from rfl, h.workerStep?] at made
    cases made
  | crash =>
    obtain ⟨active, -⟩ := eq_of_crash made
    rw [h.idle] at active
    cases active
  | close =>
    obtain ⟨-, rfl⟩ := eq_of_close made
    exact ⟨⟨h.crashed, h.idle, h.free⟩, List.prefix_rfl, rfl, fun _ => rfl⟩
  | deliver =>
    obtain ⟨reports, engine, phase, journal, delivered, rfl⟩ := loopStep?_frame made
    obtain ⟨inner, -, rfl⟩ := Engine.deliver_of_recorded delivered
    exact ⟨⟨h.crashed, h.idle, h.free⟩, List.prefix_rfl, rfl, nofun⟩
  | pass millis | outside f | clearDirectory =>
    obtain rfl := Option.some.inj made
    exact ⟨⟨h.crashed, h.idle, h.free⟩, List.prefix_rfl, rfl, fun _ => rfl⟩

/-- The same for a whole run. -/
theorem after (h : s.Deserted) (ms : List (Move σ)) :
    s.resolved <+: (s.after e c ms).resolved ∧
      (s.recording.after e.recorded c (ms.map Move.recorded)).engine.heard = [] ∧
      ((∀ m ∈ ms, m.isSilent = true) → (s.after e c ms).standing = s.standing) := by
  -- The run is followed over the engine with its record, where it can be seen that nothing is heard.
  have kept : Deserted (s.recording.after e.recorded c (ms.map Move.recorded)) ∧
      s.resolved <+: (s.recording.after e.recorded c (ms.map Move.recorded)).resolved ∧
      (s.recording.after e.recorded c (ms.map Move.recorded)).engine.heard = [] ∧
      ((∀ m ∈ ms, m.isSilent = true) →
        (s.recording.after e.recorded c (ms.map Move.recorded)).standing = s.standing) := by
    refine after_induction
      (P := fun u : Session (Recorded σ) => u.Deserted ∧ s.resolved <+: u.resolved ∧ u.engine.heard = [] ∧
        ((∀ m ∈ ms, m.isSilent = true) → u.standing = s.standing))
      ⟨⟨h.crashed, h.idle, h.free⟩, List.prefix_rfl, rfl, fun _ => rfl⟩ ?_
    rintro u ⟨deserted, settled, unheard, stands⟩ m among v made
    obtain ⟨n, listed, rfl⟩ := List.mem_map.mp among
    obtain ⟨still, more, same, stays⟩ := deserted.move made
    exact ⟨still, settled.trans more, same.trans unheard,
      fun silent => (stays (silent n listed)).trans (stands silent)⟩
  obtain ⟨-, settled, unheard, stands⟩ := kept
  have plain : s.after e c ms = (s.recording.after e.recorded c (ms.map Move.recorded)).plain := by
    rw [plain_after, plain_recording]
  rw [plain]
  exact ⟨settled, unheard, stands⟩

end Deserted

/-! ## What comes of a request -/

/-- A request to a session whose worker has crashed. Its ticket is new and settled as closed, for ever; the engine and
the queue are left alone, and the engine hears of nothing then or later. The session is left where the request would
have it, and stays there until the engine reports or something else is asked. So it is where it was before exactly if
the request does not end the connection, and asks for one only of a session that is connecting and meant to run. -/
theorem refused_of_crashed {hosted : Bool} {fs : Files} {env : Environment} {clientId : String}
    {wanted : List Notice.Kind} {directory : Directory Listener} {given engine : σ}
    (established : establish e hosted fs env c clientId wanted directory given = (.ok s, engine)) (ms : List (Move σ))
    (crashed : (s.after e c ms).queue.worker = .crashed) (op : Operation)
    (asks : op = .disconnect → (s.after e c ms).standing.running = true) :
    let u := s.after e c ms
    let k := (op.run c u).1
    let t := (op.run c u).2
    (u.resolution? k = none ∧ ∀ ns, (t.after e c ns).resolution? k = some .closed) ∧
    (t.engine = u.engine ∧ t.queue = u.queue ∧ t.exchange = none ∧
      ∀ ns : List (Move σ), (t.recording.after e.recorded c (ns.map Move.recorded)).engine.heard = []) ∧
    (t.standing = (Order.request op).standing u.standing ∧
      ∀ ns : List (Move σ), (∀ m ∈ ns, m.isSilent = true) → (t.after e c ns).standing = t.standing) ∧
    (t.standing = u.standing ↔
      op ≠ .disconnect ∧ ((Order.request op).connects = true → u.standing = ⟨.connecting, true⟩)) := by
  intro u k t
  have enrolled := Enrolled.of_establish established
  have deserted : u.Deserted := (enrolled.after ms).deserted crashed
  have new : u.resolution? u.nextTicket = none :=
    ((distinct_of_establish established).after enrolled ms).resolution?_nextTicket
  have ran := run_of_isClosed (c := c) deserted.isClosed asks
  -- The request does not bring the worker back, so what holds of a deserted session goes on to hold.
  have left : t.Deserted := by
    simp only [t, ran]
    exact ⟨deserted.crashed, deserted.idle, deserted.free⟩
  have settled : t.resolution? u.nextTicket = some .closed := by
    simp only [t, ran]
    exact resolution?_concat rfl new
  refine ⟨?_, ?_, ?_, ?_⟩
  · simp only [k, ran]
    exact ⟨new, fun ns => resolution?_stays (left.after ns).1 settled⟩
  · refine ⟨?_, ?_, left.free, fun ns => (left.after ns).2.1⟩ <;> simp only [t, ran]
  · refine ⟨?_, fun ns => (left.after ns).2.2⟩
    simp only [t, ran]
  · simp only [t, ran]
    exact standing_request_eq_self_iff asks

/-- When the job of a connect crashes, another connect is refused, and the session goes on waiting for what nobody was
asked for. -/
theorem refused_of_crashed_connect :
    let c := Config.ofEndpoint "sensor" "broker" 1883 60
    let ms : List (Move Loopback) := [.order (.request .connectConfigured), .work, .crash]
    ∃ s engine,
      establish Loopback.engine true .empty [] c "sensor" [] .empty (.fresh [] [] 0) = (.ok s, engine) ∧
      (s.after Loopback.engine c ms).queue.worker = .crashed ∧
      (Operation.reconnect.run c (s.after Loopback.engine c ms)).2.standing = ⟨.connecting, true⟩ ∧
      ((Operation.reconnect.run c (s.after Loopback.engine c ms)).2.after Loopback.engine c
        [.work, .pass 60000]).resolution? 1 = some .closed := by
  refine ⟨_, _, rfl, rfl, ?_⟩
  obtain ⟨⟨-, settled⟩, -, -, stays⟩ := refused_of_crashed (show establish Loopback.engine true .empty []
    (.ofEndpoint "sensor" "broker" 1883 60) "sensor" [] .empty (.fresh [] [] 0) = (.ok _, _) from rfl)
    [.order (.request .connectConfigured), .work, .crash] rfl .reconnect nofun
  exact ⟨stays.mpr ⟨nofun, fun _ => rfl⟩, settled [.work, .pass 60000]⟩

/-- The job of a publish has crashed in a session that was never connected. A connect is refused, and the session is
connecting and meant to run from then on: nothing is queued, and neither the worker nor the engine will do anything. -/
theorem connecting_of_crashed :
    let c := Config.ofEndpoint "sensor" "broker" 1883 60
    let ms : List (Move Loopback) :=
      [.order (.request (.publish "t" .empty .atMostOnce false)), .work, .crash]
    ∃ s engine,
      establish Loopback.engine true .empty [] c "sensor" [] .empty (.fresh [] [] 0) = (.ok s, engine) ∧
      (s.after Loopback.engine c ms).queue.worker = .crashed ∧
      (s.after Loopback.engine c ms).standing = ⟨.disconnected, false⟩ ∧
      let (k, t) := Operation.connectConfigured.run c (s.after Loopback.engine c ms)
      t.resolution? k = some .closed ∧ t.standing = ⟨.connecting, true⟩ ∧ t.queue.backlog = [] ∧
        t.workerStep? Loopback.engine = none ∧ t.loopStep? Loopback.engine = none :=
  ⟨_, _, rfl, rfl, rfl, rfl, rfl, rfl, rfl, rfl⟩

end Session

end BrokerSession
