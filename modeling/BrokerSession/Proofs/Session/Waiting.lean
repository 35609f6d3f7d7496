import BrokerSession.Proofs.Session.News
import BrokerSession.Proofs.Session.Tickets
import Mathlib.Data.List.Basic

/-!
# A connect that waits

A session that is meant to run was asked for a connection, and since the last time it was neither told to
disconnect nor let go. While that connect waits for the worker, the jobs before it are still being done, and
the events of an earlier connection may still arrive. Only the end of an earlier disconnect is kept from
moving the session: a refusal of an earlier connect that finds the session waiting ends the waiting, and so
does the loss of an earlier connection if the engine does not retry on its own.

## Main definitions

* `Session.LastConnect` - the ticket of the last connect among some jobs

## Main results

* `exists_last_connect` - a session that is meant to run was asked for a connection, and not steered since
* `waiting_connect_owns_iff` - when a session with a connect in the queue is not disconnected
* `disconnected_while_connect_waits` - the refusal of an earlier connect disconnects a session with a
  connect in the queue
-/

namespace BrokerSession

namespace Session

variable {σ : Type} {e : Engine σ} {c : Config} {s t : Session σ} {m : Move σ} {ms ns : List (Move σ)}
  {k : Ticket}

/-! ## The last time a connection was asked for -/

/-- A session that is let go is not meant to run, and afterwards orders are passed over. -/
theorem rests_obey (order : s.Orderly) (rests : s.tornDown = true → s.standing.running = false) (o : Order) :
    (s.obey c o).tornDown = true → (s.obey c o).standing.running = false := by
  cases here : s.tornDown with
  | true => rwa [obey_of_tornDown here]
  | false =>
    rw [obey_eq here (order.taking here)]
    intro gone
    cases o with
    | letGo => exact Order.standing_running ..
    | request op => cases gone
    | mark => cases gone

/-- A session that was let go goes on resting: nothing but an order says whether it is meant to run. -/
theorem rests_move (order : s.Orderly) (rests : s.tornDown = true → s.standing.running = false)
    (sound : m ≠ .crash) (made : s.move? e c m = some t) :
    t.tornDown = true → t.standing.running = false := by
  cases m with
  | order o =>
    obtain rfl := Option.some.inj made
    exact rests_obey order rests o
  | _ =>
    obtain ⟨tornDown, running⟩ := owner_of_move? sound (fun o => nofun) made
    rwa [tornDown, running]

/-- A session that was let go is not meant to run. -/
theorem rests_of_tornDown (order : s.Orderly) (present : s.tornDown = false) (sound : .crash ∉ ms) :
    (s.after e c ms).tornDown = true → (s.after e c ms).standing.running = false := by
  refine (after_induction
    (P := fun u => u.Orderly ∧ (u.tornDown = true → u.standing.running = false))
    ⟨order, fun gone => ?_⟩ ?_).2
  · rw [present] at gone
    cases gone
  · intro t ⟨order, rests⟩ m among u made
    have fine : m ≠ .crash := fun crash => sound (crash ▸ among)
    exact ⟨order.move fine made, rests_move order rests fine made⟩

/-- A session that is meant to run after a move was asked for a connection in the move, or was meant to run
before and is not steered. -/
theorem ran_of_runs (order : s.Orderly) (gone : s.tornDown = true → s.standing.running = false)
    (sound : m ≠ .crash) (runs : (s.move e c m).standing.running = true) :
    (∃ o, m = .order o ∧ o.connects = true ∧ s.tornDown = false) ∨
      (s.standing.running = true ∧ m.steers true = false) := by
  cases m with
  | order o =>
    replace runs : (s.obey c o).standing.running = true := runs
    cases here : s.tornDown with
    | true =>
      rw [obey_of_tornDown here, gone here] at runs
      cases runs
    | false =>
      rw [obey_eq here (order.taking here)] at runs
      cases asks : o.connects with
      | true => exact .inl ⟨o, rfl, asks, rfl⟩
      | false => exact .inr (Order.steady_of_runs asks ((Order.standing_running ..).symm.trans runs))
  | _ =>
    have same := move_of_move? (e := e) (c := c) (P := fun u => u.standing.running = s.standing.running)
      rfl fun u made => (owner_of_move? sound (fun o => nofun) made).2
    exact .inr ⟨same.symm.trans runs, rfl⟩

/-- A session that is meant to run was asked for a connection by an owner who had not let it go, and was not
steered since. -/
theorem exists_last_connect (order : s.Orderly) (present : s.tornDown = false)
    (rests : s.standing.running = false) (sound : .crash ∉ ms)
    (running : (s.after e c ms).standing.running = true) :
    ∃ ps o ns, ms = ps ++ .order o :: ns ∧ o.connects = true ∧ (s.after e c ps).tornDown = false ∧
      ∀ n ∈ ns, n.steers true = false := by
  -- The induction is from the end of the run, for the last connect is looked for: the last move either is that
  -- connect, or belongs to the moves since.
  induction ms using List.reverseRecOn with
  | nil =>
    rw [show (s.after e c []) = s from rfl, rests] at running
    cases running
  | append_singleton ms m ih =>
    rw [List.mem_append, not_or] at sound
    have fine : m ≠ .crash := fun crash => sound.2 (crash ▸ List.mem_singleton_self _)
    have ordered : (s.after e c ms).Orderly :=
      after_induction order fun _ ht _ hm _ made => ht.move (fun crash => sound.1 (crash ▸ hm)) made
    rw [after_append] at running
    rcases ran_of_runs ordered (rests_of_tornDown order present sound.1) fine running with
      ⟨o, rfl, asks, here⟩ | ⟨ran, steady⟩
    · exact ⟨ms, o, [], rfl, asks, here, fun n hn => nomatch hn⟩
    · obtain ⟨ps, o, ns, rfl, asks, here, before⟩ := ih sound.1 ran
      refine ⟨ps, o, ns ++ [m], by simp, asks, here, ?_⟩
      simpa [or_imp, forall_and] using ⟨before, steady⟩

/-! ## Connects that wait -/

/-- Whether the last connect among some jobs has a given ticket, if there is one. -/
def LastConnect (k : Ticket) (jobs : List Job) : Prop :=
  ∀ j, (jobs.filter (·.task.connects)).getLast? = some j → j.ticket = some k

namespace LastConnect

variable {jobs more rest : List Job}

theorem suffix (h : LastConnect k jobs) (behind : rest <:+ jobs) : LastConnect k rest := by
  obtain ⟨done, rfl⟩ := behind
  intro j last
  exact h j (by rw [List.filter_append, List.getLast?_append, last, Option.some_or])

theorem append (h : LastConnect k jobs) (quiet : ∀ j ∈ more, j.task.connects = false) :
    LastConnect k (jobs ++ more) := by
  have none : more.filter (·.task.connects) = [] := by simpa using quiet
  rwa [LastConnect, List.filter_append, none, List.append_nil]

theorem of_append (asks : ∀ j ∈ more, j.task.connects = true)
    (numbered : ∀ j ∈ more, j.ticket = some k) (new : more ≠ []) : LastConnect k (jobs ++ more) := by
  intro j last
  rw [List.filter_append, List.filter_eq_self.mpr asks, List.getLast?_append_of_ne_nil _ new] at last
  exact numbered j (List.mem_of_getLast? last)

/-- If a connect is left, so is the last one. -/
theorem exists_ticket (h : LastConnect k jobs) (waits : ∃ j ∈ jobs, j.task.connects = true) :
    ∃ j ∈ jobs, j.task.connects = true ∧ j.ticket = some k := by
  obtain ⟨i, among, asks⟩ := waits
  have asked : i ∈ jobs.filter (·.task.connects) := List.mem_filter.mpr ⟨among, asks⟩
  have last := List.getLast?_eq_some_getLast (List.ne_nil_of_mem asked)
  obtain ⟨left, connects⟩ := List.mem_filter.mp (List.mem_of_getLast? last)
  exact ⟨_, left, connects, h _ last⟩

theorem of_obey {o : Order} (order : s.Orderly) (present : s.tornDown = false)
    (asks : o.connects = true) : LastConnect s.nextTicket (s.obey c o).pending := by
  rw [obey_eq present (order.taking present)]
  simp only [pending, ← List.append_assoc]
  obtain ⟨task, jobs⟩ := Order.jobs_of_connects c s.standing.running s.nextTicket asks
  refine .of_append (fun j new => (Order.connects_of_mem_jobs new).trans asks) ?_ ?_
  · rw [jobs]
    exact List.forall_mem_singleton.mpr rfl
  · rw [jobs]
    exact List.cons_ne_nil _ _

theorem move (h : LastConnect k s.pending) (order : s.Orderly) (sound : m ≠ .crash)
    (quiet : m.connects = false) (made : s.move? e c m = some t) : LastConnect k t.pending := by
  rcases pending_move? order sound made with ⟨behind, -⟩ | ⟨o, rfl, more, -⟩
  · exact h.suffix behind
  · rw [more]
    exact h.append fun j new => (Order.connects_of_mem_jobs new).trans quiet

theorem after (h : LastConnect k s.pending) (order : s.Orderly) (sound : .crash ∉ ns)
    (quiet : ∀ n ∈ ns, n.connects = false) : LastConnect k (s.after e c ns).pending := by
  refine (after_induction (P := fun u => u.Orderly ∧ LastConnect k u.pending) ⟨order, h⟩ ?_).2
  intro t ⟨order, last⟩ n among u made
  have fine : n ≠ .crash := fun crash => sound (crash ▸ among)
  exact ⟨order.move fine made, last.move order fine (quiet n among) made⟩

end LastConnect

/-- A session that is meant to run and has a connect in the queue has the last connect in the queue, and is
not disconnected exactly if one of two things holds of what it has heard since it was asked for that
connect: the last event about the connection said that there is one; or no connect was refused after that
event, which was no loss for good. -/
theorem waiting_connect_owns_iff {hosted : Bool} {fs : Files} {env : Environment} {clientId : String}
    {wanted : List Notice.Kind} {directory : Directory Listener} {engine engine' : σ}
    (established : establish e hosted fs env c clientId wanted directory engine = (.ok s, engine'))
    (ms : List (Move σ)) (sound : .crash ∉ ms)
    (running : (s.after e c ms).standing.running = true)
    (waits : ∃ j ∈ (s.after e c ms).queue.backlog, j.task.connects = true) :
    ∃ ps o ns, ms = ps ++ .order o :: ns ∧ o.connects = true ∧ (s.after e c ps).tornDown = false ∧
      (∀ n ∈ ns, n.steers true = false) ∧
      (∃ j ∈ (s.after e c ms).queue.backlog,
        j.task.connects = true ∧ j.ticket = some (s.after e c ps).nextTicket) ∧
      let news := chronicle e c ((s.after e c ps).obey c o) ns
      ((s.after e c ms).standing.phase ≠ .disconnected ↔
        News.lastHeard news = some true ∨
          News.refusedSince news = false ∧
            (News.lastHeard news = some false → c.retry.isEnabled = true)) := by
  have attended := Attended.of_establish established
  obtain ⟨present, rests⟩ : s.tornDown = false ∧ s.standing.running = false := by
    obtain ⟨staged, -, rfl⟩ := establish_eq_ok established
    exact ⟨rfl, rfl⟩
  -- The run is cut at the last order that asked for a connection.
  obtain ⟨ps, o, ns, rfl, asks, here, steady⟩ :=
    exists_last_connect attended.order present rests sound running
  simp only [List.mem_append, List.mem_cons, not_or] at sound
  have before := attended.after (e := e) (c := c) sound.1
  have split : s.after e c (ps ++ .order o :: ns) = ((s.after e c ps).obey c o).after e c ns :=
    after_append ps (.order o :: ns)
  rw [split] at waits ⊢
  refine ⟨ps, o, ns, rfl, asks, here, steady, ?_, ?_⟩
  · -- The worker takes the jobs in their order, so the last connect is in the queue if any connect is.
    have last := (LastConnect.of_obey (c := c) before.order here asks).after (e := e) (c := c)
      (before.order.obey o) sound.2.2 fun n hn => Move.quiet_of_steady (steady n hn)
    exact (last.suffix (List.suffix_append ..)).exists_ticket waits
  · rw [standing_of_connect before here asks sound.2.2 steady]
    exact Phase.learnAll_connecting_ne_disconnected_iff

/-- A session that hears of its first connection while a second connect waits is not disconnected. -/
theorem waiting_connect_owns_iff_heard :
    let c := Config.ofEndpoint "sensor" "localhost" 1883 60
    let ms : List (Move Loopback) := [.order (.request .connectConfigured),
      .order (.request (.publish "t" .empty .atMostOnce false)), .order (.request .reconnect),
      .work, .work, .work, .work, .deliver]
    ∃ s engine,
      establish Loopback.engine true .empty [] c "sensor" [] .empty
        (.fresh [] [("publish", 100)] 0) = (.ok s, engine) ∧
      let t := s.after Loopback.engine c ms
      t.standing.running = true ∧ (∃ j ∈ t.queue.backlog, j.task.connects = true) ∧
        t.standing.phase ≠ .disconnected := by
  refine ⟨_, _, rfl, rfl, ⟨⟨some 2, .reconnect⟩, by decide, rfl⟩, ?_⟩
  obtain ⟨ps, o, ns, split, asks, -, steady, -, owns⟩ :=
    waiting_connect_owns_iff (show establish Loopback.engine true .empty []
      (.ofEndpoint "sensor" "localhost" 1883 60) "sensor" [] .empty (.fresh [] [("publish", 100)] 0) =
        (.ok _, _) from rfl)
      [.order (.request .connectConfigured),
        .order (.request (.publish "t" .empty .atMostOnce false)), .order (.request .reconnect),
        .work, .work, .work, .work, .deliver] (by simp) rfl ⟨⟨some 2, .reconnect⟩, by decide, rfl⟩
  -- The last order that asks for a connection is the third.
  rcases ps with - | ⟨p, - | ⟨q, - | ⟨r, ps⟩⟩⟩
  · obtain ⟨rfl, rfl⟩ := by simpa using split
    exact absurd (steady (.order (.request .reconnect)) (by simp)) (by decide)
  · obtain ⟨-, rfl, -⟩ := by simpa using split
    cases asks
  · obtain ⟨rfl, rfl, rfl, rfl⟩ := by simpa using split
    exact owns.mpr (.inl rfl)
  · obtain ⟨-, -, -, split⟩ := by simpa using split
    have among : Move.order o ∈ ([.work, .work, .work, .work, .deliver] : List (Move Loopback)) := by
      rw [split]
      exact List.mem_append_right _ List.mem_cons_self
    simp at among

/-- A session whose first connect is refused is disconnected while a second connect waits. -/
theorem disconnected_while_connect_waits :
    let c := Config.ofEndpoint "sensor" "localhost" 1883 60
    ∃ s engine,
      establish Loopback.engine true .empty [] c "sensor" [] .empty
        (.fresh [("connect", .eai)] [("publish", 100)] 0) = (.ok s, engine) ∧
      let t := s.after Loopback.engine c [.order (.request .connectConfigured),
        .order (.request (.publish "t" .empty .atMostOnce false)),
        .order (.request .connectConfigured), .work, .work, .work]
      t.standing.running = true ∧ (∃ j ∈ t.queue.backlog, j.task.connects = true) ∧
        t.standing.phase = .disconnected :=
  ⟨_, _, rfl, rfl, ⟨_, List.mem_cons_self, rfl⟩, rfl⟩

end Session

end BrokerSession
