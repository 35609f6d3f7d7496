import BrokerSession.Proofs.Session.News
import BrokerSession.Proofs.Session.Tickets

/-!
# A connect that fails

A connect can fail in two ways: the engine refuses it, or accepts it and then does not start its loop. A
refusal ends the waiting of a session that waits, whatever it was before it began to wait. A loop that is
not started leaves the session where it is, and so one that waits goes on waiting for an answer that nothing
will bring.

## Main definitions

* `Session.LoopFails` - the engine accepts a connect and does not start its loop

## Main results

* `Awaits.failure` - where a failed connect leaves a session
* `connecting_of_failure_iff` - when a session goes on waiting after its connect has failed
* `connected_of_refusal_iff` - when a session agrees with an engine that has refused a connect and is still
  connected
* `connecting_after_unstarted_loop`, `disconnected_by_refusal` - a session that waits for nothing, and one
  that takes a connection for lost
-/

namespace BrokerSession

/-- A refusal is the last word on a connection, unless the last event said that there is one. -/
theorem Phase.learnAll_concat_refused (retries : Bool) (news : List News) :
    connecting.learnAll retries true (news ++ [.refused]) =
      if News.lastHeard news = some true then .connected else .disconnected := by
  rw [learnAll_connecting, News.lastHeard_concat, News.refusedSince_concat]
  rcases News.lastHeard news with - | there
  · simp [News.heard?]
  · cases there <;> simp [News.heard?]

theorem Task.disconnects_of_connects {task : Task} (connects : task.connects = true) :
    task.disconnects = false := by
  cases task <;> first | rfl | cases connects

namespace Session

variable {σ : Type} {e : Engine σ} {c : Config} {s t : Session σ} {k : Ticket} {reply : Reply}

/-- Whether the engine has accepted a connect and answers next that it does not start its loop. -/
def LoopFails (e : Engine σ) (s : Session σ) : Prop :=
  s.said = some .startLoop ∧ ∃ r engine,
    e.finish s.engine s.clock .startLoop = some (r, engine) ∧ r.status.isSuccess = false

/-- A connect that fails because its loop was not started leaves the session where it is, and one that the
engine has refused ends its waiting. -/
theorem Awaits.failure (h : s.Awaits k) (step : WorkerStep e s t) (unsettled : s.resolution? k = none)
    (settled : t.resolution? k = some (.answered reply)) (failed : reply.status.isSuccess = false) :
    (s.LoopFails e ∧ t.standing = s.standing) ∨
      (¬ s.LoopFails e ∧ t.standing =
        if s.standing.phase = .connecting then { s.standing with phase := .disconnected }
        else s.standing) := by
  obtain ⟨x, r, busy, connects, answered, follows, moved⟩ := h.settle step unsettled settled
  obtain ⟨a, before, talk⟩ := h.order.talking x busy
  have heard := said_of_busy busy
  -- The last answer to a connect is about the loop, or is the refusal of the connect itself.
  rcases talk.last follows with ⟨-, last⟩ | ⟨-, opens, refused⟩ | ⟨ends, -⟩ | ⟨other, -⟩
  · rw [last] at answered heard
    have same : reply.status = r.status := by
      simp only [Exchange.sequel, last, Sequel.done.injEq] at follows
      rw [← follows]
      rfl
    refine .inl ⟨⟨heard, r, t.engine, answered, same ▸ failed⟩, ?_⟩
    rw [moved]
    simp [Exchange.standing, last]
  · refine .inr ⟨fun fails => ?_, ?_⟩
    · exact (Task.opening_ne_loop opens).1 (Option.some.inj (heard.symm.trans fails.1))
    · rw [moved]
      rcases Task.connect_of_opening opens connects with eq | ⟨host, port, keepAlive, eq⟩ <;>
        simp [Exchange.standing, eq, refused]
  · rw [Task.disconnects_of_connects connects] at ends
    cases ends
  · rw [connects] at other
    cases other

section Runs

variable {hosted : Bool} {fs : Files} {env : Environment} {clientId : String}
  {wanted : List Notice.Kind} {directory : Directory Listener} {engine engine' : σ}
  {ms ns : List (Move σ)} {o : Order}

/-- A session that was asked for a connection awaits it, and is where the news since have led it. -/
theorem awaits_after
    (established : establish e hosted fs env c clientId wanted directory engine = (.ok s, engine'))
    (sound : .crash ∉ ms ++ ns) (present : (s.after e c ms).tornDown = false)
    (asks : o.connects = true) (steady : ∀ n ∈ ns, n.steers true = false) :
    let v := (s.after e c ms).obey c o
    (v.after e c ns).Awaits (s.after e c ms).nextTicket ∧
      (v.after e c ns).standing =
        ⟨Phase.connecting.learnAll c.retry.isEnabled true (chronicle e c v ns), true⟩ := by
  intro v
  rw [List.mem_append, not_or] at sound
  have before := (Attended.of_establish established).after (e := e) (c := c) sound.1
  have numbered := (numbered_of_establish established).after (e := e) (c := c)
    (orderly_of_establish established) sound.1
  exact ⟨(Awaits.of_obey numbered before.order present asks).after sound.2,
    standing_of_connect before present asks sound.2 steady⟩

variable (ms ns o)

/-- A connect that fails leaves the session waiting exactly if the engine has accepted it and does not start
its loop, and the session has waited until then: it has heard that there is no connection, if anything, from
an engine that retries, and no connect was refused since. -/
theorem connecting_of_failure_iff
    (established : establish e hosted fs env c clientId wanted directory engine = (.ok s, engine'))
    (sound : .crash ∉ ms ++ ns) (present : (s.after e c ms).tornDown = false)
    (asks : o.connects = true) (steady : ∀ n ∈ ns, n.steers true = false) :
    let v := (s.after e c ms).obey c o
    let u := v.after e c ns
    let news := chronicle e c v ns
    ∀ t reply, u.workerStep? e = some t →
      u.resolution? (s.after e c ms).nextTicket = none →
      t.resolution? (s.after e c ms).nextTicket = some (.answered reply) →
      reply.status.isSuccess = false →
      (t.standing.phase = .connecting ↔
        u.LoopFails e ∧ News.refusedSince news = false ∧ News.lastHeard news ≠ some true ∧
          (News.lastHeard news = some false → c.retry.isEnabled = true)) := by
  intro v u news t reply made unsettled settled failed
  obtain ⟨awaits, standing⟩ := awaits_after established sound present asks steady
  have before : u.standing.phase = .connecting ↔
      News.refusedSince news = false ∧ News.lastHeard news ≠ some true ∧
        (News.lastHeard news = some false → c.retry.isEnabled = true) := by
    rw [standing]
    exact Phase.learnAll_connecting_eq_connecting_iff
  -- Either the loop has failed and the session is left as it was, or the engine has refused, and it waits no longer.
  rcases awaits.failure (workerStep_of_workerStep? made) unsettled settled failed with
    ⟨fails, same⟩ | ⟨refused, left⟩
  · rw [same]
    exact before.trans (and_iff_right fails).symm
  · refine iff_of_false (fun waits => ?_) fun fails => refused fails.1
    rw [left] at waits
    split at waits
    · cases waits
    · rename_i other
      exact other waits

/-- A session whose connect the engine has refused does not go on waiting. -/
theorem connecting_of_failure_iff_refused :
    let c := Config.ofEndpoint "sensor" "localhost" 1883 60
    ∃ s engine t reply,
      establish Loopback.engine true .empty [] c "sensor" [] .empty
        (.fresh [("connect", .eai)] [] 0) = (.ok s, engine) ∧
      let u := (s.obey c (.request .connectConfigured)).after Loopback.engine c [.work]
      u.workerStep? Loopback.engine = some t ∧ u.resolution? s.nextTicket = none ∧
        t.resolution? s.nextTicket = some (.answered reply) ∧ reply.status = .eai ∧
        t.standing.phase ≠ .connecting := by
  refine ⟨_, _, _, _, rfl, rfl, rfl, rfl, rfl, fun waits => ?_⟩
  have fails := ((connecting_of_failure_iff [] [.work] (.request .connectConfigured)
    (show establish Loopback.engine true .empty [] (.ofEndpoint "sensor" "localhost" 1883 60) "sensor" []
      .empty (.fresh [("connect", .eai)] [] 0) = (.ok _, _) from rfl)
    (by simp) rfl rfl (by simp [Move.steers]) _ _ rfl rfl rfl rfl).mp waits).1.1
  cases Option.some.inj fails

/-- A session whose engine accepts the connect and does not start its loop goes on waiting after the connect
has failed. -/
theorem connecting_after_unstarted_loop :
    let c := Config.ofEndpoint "sensor" "localhost" 1883 60
    ∃ s engine,
      establish Loopback.engine true .empty [] c "sensor" [] .empty
        (.fresh [("start_loop", .errno)] [] 0) = (.ok s, engine) ∧
      let t := (s.obey c (.request .connectConfigured)).after Loopback.engine c [.work, .work, .work]
      t.resolution? s.nextTicket = some (.answered (.ofStatus .errno)) ∧
        t.pending = [] ∧ t.standing.phase = .connecting :=
  ⟨_, _, rfl, rfl, rfl, rfl⟩

/-- When a connect was refused by an engine that is connected all the same, the session agrees with the
engine exactly if the last event about the connection since the connect was asked for said that there is
one. If not the session is disconnected, whatever it was before the connect. -/
theorem connected_of_refusal_iff (connected : σ → Bool)
    (established : establish e hosted fs env c clientId wanted directory engine = (.ok s, engine'))
    (sound : .crash ∉ ms ++ ns) (present : (s.after e c ms).tornDown = false)
    (asks : o.connects = true) (steady : ∀ n ∈ ns, n.steers true = false) :
    let v := (s.after e c ms).obey c o
    let u := v.after e c ns
    let news := chronicle e c v ns
    ∀ t reply, u.workerStep? e = some t →
      u.resolution? (s.after e c ms).nextTicket = none →
      t.resolution? (s.after e c ms).nextTicket = some (.answered reply) →
      reply.status.isSuccess = false → ¬ u.LoopFails e → connected t.engine = true →
      (t.standing.isConnected = connected t.engine ↔ News.lastHeard news = some true) ∧
        (News.lastHeard news ≠ some true → t.standing.phase = .disconnected) := by
  intro v u news t reply made unsettled settled failed refused up
  obtain ⟨awaits, standing⟩ := awaits_after established sound present asks steady
  rcases awaits.failure (workerStep_of_workerStep? made) unsettled settled failed with
    ⟨fails, -⟩ | ⟨-, left⟩
  · exact absurd fails refused
  · -- Where the refusal leaves the session is where one more piece of news would.
    have phase : t.standing.phase =
        if News.lastHeard news = some true then .connected else .disconnected := by
      rw [← Phase.learnAll_concat_refused c.retry.isEnabled, Phase.learnAll_append,
        Phase.learnAll_singleton, left, standing]
      simp only [Phase.learn]
      split <;> rfl
    rw [up, Standing.isConnected, phase]
    by_cases heard : News.lastHeard news = some true <;> simp [heard]

/-- A session that hears of its connection while a refusal is under way stays connected. -/
theorem connected_of_refusal_iff_heard_again :
    let c := Config.ofEndpoint "sensor" "localhost" 1883 60
    let ms : List (Move Loopback) := [.order (.request .connectConfigured),
      .order (.request .connectConfigured), .work, .work, .work, .work, .work, .work, .deliver]
    ∃ s engine t,
      establish Loopback.engine true .empty [] c "sensor" [] .empty
        (.fresh [("reconnect", .errno)] [] 0) = (.ok s, engine) ∧
      (s.after Loopback.engine c ms).standing.isConnected = true ∧
      let u := ((s.after Loopback.engine c ms).obey c (.request .reconnect)).after Loopback.engine c
        [.deliver, .work]
      u.workerStep? Loopback.engine = some t ∧
        t.resolution? (s.after Loopback.engine c ms).nextTicket =
          some (.answered (.ofStatus .errno)) ∧
        t.standing.isConnected = t.engine.connected := by
  refine ⟨_, _, _, rfl, rfl, rfl, rfl, ?_⟩
  refine (connected_of_refusal_iff
    [.order (.request .connectConfigured), .order (.request .connectConfigured), .work, .work, .work,
      .work, .work, .work, .deliver]
    [.deliver, .work] (.request .reconnect) Loopback.connected
    (show establish Loopback.engine true .empty [] (.ofEndpoint "sensor" "localhost" 1883 60) "sensor" []
      .empty (.fresh [("reconnect", .errno)] [] 0) = (.ok _, _) from rfl)
    (by simp) rfl rfl (by simp [Move.steers]) _ _ rfl rfl rfl rfl
    (fun fails => nomatch Option.some.inj fails.1) rfl).1.mpr ?_
  rfl

/-- A session that was connected is disconnected by a refused connect although its engine is connected, and
goes on telling its application what it hears. -/
theorem disconnected_by_refusal :
    let c := Config.ofEndpoint "sensor" "localhost" 1883 60
    ∃ s engine,
      establish Loopback.engine true .empty [] c "sensor" [.publish] .empty
        (.fresh [("reconnect", .errno)] [] 0) = (.ok s, engine) ∧
      let u := s.after Loopback.engine c
        [.order (.request .connectConfigured), .work, .work, .work, .deliver]
      u.standing.isConnected = true ∧ u.engine.connected = true ∧
      let t := (u.obey c (.request .reconnect)).after Loopback.engine c [.work, .work]
      t.resolution? u.nextTicket = some (.answered (.ofStatus .errno)) ∧ t.pending = [] ∧
        t.standing.isConnected = false ∧ t.engine.connected = true ∧
      let v := t.after Loopback.engine c [.outside fun engine => engine.inject (.publish 7), .deliver]
      v.journal.getLast? = some (.notice (.published 7)) ∧ v.standing.isConnected = false :=
  ⟨_, _, rfl, rfl, rfl, rfl, rfl, rfl, rfl, rfl, rfl⟩

end Runs

end Session

end BrokerSession
