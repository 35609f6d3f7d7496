import BrokerSession.Proofs.Session.Loopback

/-!
# A session that rests

A session that was told to disconnect comes to rest once its last disconnect is done: it is disconnected, and no
event loop runs that could move it. Connects that were asked for before do not get in the way, for each of them
has a disconnect behind it. It takes another connect to move the session again.

## Main definitions

* `Session.AtRest` - disconnected, and without an event loop
* `Session.Restful` - a session that is not meant to run, and has no disconnect left, is at rest

## Main results

* `disconnected_of_resting` - in every run a session that is not meant to run and has no disconnect left is at
  rest, and stays at rest until the next connect
-/

namespace BrokerSession

namespace Session

variable {c : Config} {s t : Session Loopback}

/-- Whether a session is disconnected and no event loop runs that could move it. -/
def AtRest (s : Session Loopback) : Prop :=
  s.standing.phase = .disconnected ∧ (s.engine.receiver = .held ∨ s.engine.receiver = .lost)

/-- Whether a session is not meant to run and has no disconnect left to do. -/
def Resting (s : Session Loopback) : Prop :=
  s.standing.running = false ∧ ∀ k ∈ s.pending, k.task.disconnects = false

/-- A session whose engine can be stopped, and that is at rest once it rests. -/
structure Restful (s : Session Loopback) : Prop where
  order : s.Orderly
  stoppable : s.engine.failures.lookup "stop_loop" = none
  atRest : s.Resting → s.AtRest

namespace Restful

theorem no_connect (order : s.Orderly) (resting : s.Resting) :
    ∀ k ∈ s.pending, k.task.connects = false :=
  (order.resting resting.1).none resting.2

/-- An order keeps it: one after which the session rests without a disconnect leaves it where it is. -/
theorem obey (h : s.Restful) (o : Order) : (s.obey c o).Restful := by
  have order := h.order.obey (c := c) o
  cases here : s.tornDown with
  | true => rwa [obey_of_tornDown here]
  | false =>
    rw [obey_eq here (h.order.taking here)] at order ⊢
    refine ⟨order, h.stoppable, ?_⟩
    rintro ⟨rests, gone⟩
    rw [Order.standing_running] at rests
    simp only [pending, ← List.append_assoc] at gone
    -- Either the session rested before, or the order brings a disconnect, and then one is left.
    rcases (Order.jobs_of_resting (c := c) s.nextTicket rests).2 with rested | ⟨k, new, last⟩
    · have before := h.atRest ⟨rested, fun k hk => gone k (List.mem_append_left _ hk)⟩
      exact ⟨by rw [Order.standing_of_rested rested rests]; exact before.1, before.2⟩
    · rw [gone k (List.mem_append_right _ new)] at last
      cases last

theorem workerStep (h : s.Restful) (step : WorkerStep Loopback.engine s t) : t.Restful := by
  have order := h.order.workerStep step
  cases step with
  | @dismiss job rest reply free alive waits dismissed =>
    refine ⟨order, h.stoppable, fun resting => h.atRest ⟨resting.1, ?_⟩⟩
    rw [h.order.pending_of_free free, waits]
    intro k hk
    rcases List.mem_cons.mp hk with rfl | later
    · exact (Task.links_of_dismissal? dismissed).2
    · exact resting.2 k later
  | @begin job rest cmd free alive waits opens =>
    refine ⟨order, ?_, fun resting => ?_⟩
    · exact (congrArg (List.lookup "stop_loop") (Loopback.call_failures s.engine cmd)).trans h.stoppable
    · have before := h.atRest ⟨resting.1, by
        rw [h.order.pending_of_free free, waits]
        exact resting.2⟩
      exact ⟨before.1, by simpa [say, Loopback.engine] using before.2⟩
  | retire free alive empty closed =>
    exact ⟨order, h.stoppable, fun resting => ⟨(h.atRest resting).1, .inr rfl⟩⟩
  | @goOn x r engine cmd earlier busy answered follows =>
    obtain ⟨a, before, talk⟩ := h.order.talking x busy
    refine ⟨order, ?_, fun resting => ?_⟩
    · simp [say, heed, Loopback.engine, Loopback.failures_of_finish answered, h.stoppable]
    · -- Only connects and disconnects go on, and a session that rests has neither left.
      have here := order.pending_of_busy rfl
      have connects := no_connect order resting x.job (by rw [here]; exact List.mem_cons_self)
      have ends := resting.2 x.job (by rw [here]; exact List.mem_cons_self)
      rcases (talk.next follows).2 with ⟨link, -⟩ | ⟨link, -⟩
      · rw [link] at connects
        cases connects
      · rw [link] at ends
        cases ends
  | @finish x r engine reply busy answered follows =>
    obtain ⟨a, before, talk⟩ := h.order.talking x busy
    refine ⟨order, ?_, ?_⟩
    · simp [complete, resolve, heed, Loopback.failures_of_finish answered, h.stoppable]
    · rintro ⟨rests, gone⟩
      replace rests : s.standing.running = false := by simpa [complete, resolve, heed] using rests
      have followed := h.order.resting rests
      rw [h.order.pending_of_busy busy] at followed
      -- A connect at work would have a disconnect behind it, and none is left.
      have unconnecting : ¬ x.job.task.connects = true := by
        intro connects
        obtain ⟨k, later, last⟩ := followed.1 connects
        rw [gone k later] at last
        cases last
      rcases talk.last follows with ⟨connects, -⟩ | ⟨connects, -, -⟩ | ⟨-, stops⟩ | ⟨connects, ends, opens⟩
      · exact absurd connects unconnecting
      · exact absurd connects unconnecting
      · -- This was the last disconnect, and what follows its last answer brings the session to rest.
        refine ⟨by simp [complete, resolve, heed, Exchange.standing, stops, rests], ?_⟩
        rw [stops] at answered
        exact Loopback.receiver_of_stopLoop h.stoppable answered
      · have before := h.atRest ⟨rests, by
          rw [h.order.pending_of_busy busy]
          exact List.forall_mem_cons.mpr ⟨ends, gone⟩⟩
        refine ⟨?_, ?_⟩
        · simpa [complete, resolve, heed, Exchange.standing_of_message opens connects ends]
            using before.1
        · rcases Loopback.receiver_of_finish (Task.opening_ne_loop opens).1 answered with same | held
          · exact same ▸ before.2
          · exact .inl held

theorem loopStep (h : s.Restful) (step : s.loopStep? Loopback.engine = some t)
    (order : t.Orderly) : t.Restful := by
  obtain ⟨running, rest, cases⟩ := loopStep?_loopback step
  -- A session that rests has no loop, so it is not the one that this step belongs to.
  have moving : ¬ s.Resting := by
    intro resting
    rcases (h.atRest resting).2 with held | lost
    · rw [held] at running
      cases running
    · rw [lost] at running
      cases running
  rcases cases with ⟨event, -, rfl⟩ | ⟨-, rfl⟩
  · obtain ⟨phase, journal, heard⟩ := receive_frame
      (s := { s with engine := { s.engine with mailbox := rest } }) (.event event)
    rw [show hear _ event = _ from heard] at order ⊢
    exact ⟨order, h.stoppable, fun resting => absurd resting moving⟩
  · exact ⟨order, h.stoppable, fun resting => absurd resting moving⟩

theorem move {m : Move Loopback} (h : s.Restful) (ordinary : m.Ordinary)
    (made : s.move? Loopback.engine c m = some t) : t.Restful := by
  have order : t.Orderly := h.order.move (fun crash => by rw [crash] at ordinary; exact ordinary) made
  cases m with
  | order o =>
    obtain rfl := Option.some.inj made
    exact h.obey o
  | close =>
    obtain ⟨-, rfl⟩ := eq_of_close made
    exact ⟨order, h.stoppable, h.atRest⟩
  | work => exact h.workerStep (workerStep_of_workerStep? made)
  | deliver => exact h.loopStep made order
  | pass millis | clearDirectory =>
    obtain rfl := Option.some.inj made
    exact ⟨order, h.stoppable, h.atRest⟩
  | outside f =>
    obtain ⟨stir, rfl⟩ := ordinary
    obtain rfl := Option.some.inj made
    refine ⟨order, by simpa using h.stoppable, fun resting => ?_⟩
    exact ⟨(h.atRest resting).1, by simpa using (h.atRest resting).2⟩
  | crash => exact ordinary.elim

theorem of_establish {hosted : Bool} {fs : Files} {env : Environment} {clientId : String}
    {wanted : List Notice.Kind} {directory : Directory Listener} {failures : List (String × Status)}
    {delays : List (String × Nat)} {code : Int} {engine : Loopback}
    (stoppable : failures.lookup "stop_loop" = none)
    (established : establish Loopback.engine hosted fs env c clientId wanted directory
      (.fresh failures delays code) = (.ok s, engine)) : s.Restful := by
  have order := orderly_of_establish established
  obtain ⟨calls, unused⟩ := engine_of_establish established
  obtain ⟨staged, -, rfl⟩ := establish_eq_ok established
  exact ⟨order, by rw [unused]; exact stoppable, fun _ => ⟨rfl, .inl (by rw [unused]; rfl)⟩⟩

end Restful

/-! ## Staying at rest -/

theorem Resting.move {m : Move Loopback} (resting : s.Resting) (order : s.Orderly)
    (sound : m ≠ .crash) (quiet : m.connects = false) (made : s.move? Loopback.engine c m = some t) :
    t.Resting := by
  obtain ⟨rests, gone⟩ := resting
  cases m with
  | order o =>
    obtain rfl := Option.some.inj made
    cases here : s.tornDown with
    | true => rw [obey_of_tornDown here]; exact ⟨rests, gone⟩
    | false =>
      rw [obey_eq here (order.taking here)]
      have after : o.runs s.standing.running = false := Order.runs_of_quiet quiet rests
      refine ⟨(Order.standing_running ..).trans after, fun k hk => ?_⟩
      simp only [pending, ← List.append_assoc] at hk
      rcases List.mem_append.mp hk with old | new
      · exact gone k old
      · exact Order.disconnects_of_mem_jobs rests new
  | work =>
    have step := workerStep_of_workerStep? made
    exact ⟨step.running.trans rests, fun k hk => gone k ((order.pending_suffix step).subset hk)⟩
  | crash => exact absurd rfl sound
  | _ =>
    obtain ⟨_, _, _, _, _, _, rfl⟩ := move?_frame made rfl
    exact ⟨rests, gone⟩

/-- In every run over an engine whose loop can be stopped, a session that is not meant to run and has no
disconnect left is disconnected and has no event loop; and whatever happens then, this stays so until the session
is asked to connect. -/
theorem disconnected_of_resting {hosted : Bool} {fs : Files} {env : Environment} {clientId : String}
    {wanted : List Notice.Kind} {directory : Directory Listener} {failures : List (String × Status)}
    {delays : List (String × Nat)} {code : Int} {engine : Loopback}
    (stoppable : failures.lookup "stop_loop" = none)
    (established : establish Loopback.engine hosted fs env c clientId wanted directory
      (.fresh failures delays code) = (.ok s, engine))
    (ms ns : List (Move Loopback)) (ordinary : ∀ m ∈ ms, m.Ordinary)
    (rests : (s.after Loopback.engine c ms).standing.running = false)
    (gone : ∀ k ∈ (s.after Loopback.engine c ms).pending, k.task.disconnects = false)
    (quiet : ∀ m ∈ ns, m.Ordinary ∧ m.connects = false) :
    let t := (s.after Loopback.engine c ms).after Loopback.engine c ns
    t.standing.phase = .disconnected ∧ (t.engine.receiver = .held ∨ t.engine.receiver = .lost) ∧
      t.loopStep? Loopback.engine = none := by
  have restful : (s.after Loopback.engine c ms).Restful :=
    after_induction (.of_establish stoppable established)
      fun t ht m hm u made => ht.move (ordinary m hm) made
  -- A session stays at rest until somebody asks for a connection, and where it is then follows from each of its states.
  have later : ((s.after Loopback.engine c ms).after Loopback.engine c ns).Restful ∧
      ((s.after Loopback.engine c ms).after Loopback.engine c ns).Resting := by
    refine after_induction (P := fun u => u.Restful ∧ u.Resting) ⟨restful, rests, gone⟩ ?_
    intro t ht m hm u made
    obtain ⟨plain, quiet⟩ := quiet m hm
    refine ⟨ht.1.move plain made, ht.2.move ht.1.order ?_ quiet made⟩
    rintro rfl
    exact plain
  obtain ⟨phase, receiver⟩ := later.1.atRest later.2
  have still : ((s.after Loopback.engine c ms).after Loopback.engine c ns).engine.receiver ≠
      .running := by
    rcases receiver with held | lost
    · rw [held]; decide
    · rw [lost]; decide
  exact ⟨phase, receiver, loopStep?_eq_none still⟩

/-- A session that is told to disconnect before its connects are done comes to rest, and a broker that goes away
afterwards does not move it. -/
theorem disconnected_of_resting_farewell :
    let c := Config.ofEndpoint "sensor" "broker" 1883 60
    ∃ s engine,
      establish Loopback.engine true .empty [] c "sensor" [] .empty
        (.fresh [("connect", .inval)] [("publish", 5)] 0) = (.ok s, engine) ∧
      ((s.after Loopback.engine c
        [.order (.request .connectConfigured), .order (.request .reconnect),
          .order (.request .disconnect), .work, .work, .work, .work, .work, .work, .work]).after
        Loopback.engine c
        [.outside (Loopback.Stir.drop 7).apply, .deliver]).standing.phase = .disconnected := by
  refine ⟨_, _, rfl, ?_⟩
  refine (disconnected_of_resting rfl (show establish Loopback.engine true .empty []
    (.ofEndpoint "sensor" "broker" 1883 60) "sensor" [] .empty
    (.fresh [("connect", .inval)] [("publish", 5)] 0) = (.ok _, _) from rfl)
    [.order (.request .connectConfigured), .order (.request .reconnect),
      .order (.request .disconnect), .work, .work, .work, .work, .work, .work, .work]
    [.outside (Loopback.Stir.drop 7).apply, .deliver] ?_ rfl (by decide) ?_).1
  · simp [Move.Ordinary]
  · simp [Move.Ordinary, Move.connects]

end Session

end BrokerSession
