import BrokerSession.Proofs.Session.News

/-!
# A session that was told to disconnect

A session that was told to disconnect has a connect behind it whose answer may still be on its way. Whether
the session is meant to run is not asked when the answer arrives, so one that accepts the connect makes the
session connected again, although it is about to part. Nothing else does: until its owner asks for a
connection, the session is reported connected only by an accepted connect that it hears of after it was told
to disconnect.

## Main results

* `isConnected_move_iff` - what makes a resting session connected in a move
* `never_connected_iff` - when a session that was told to disconnect is never connected before the next
  connect
* `connected_while_parting` - a session that hears of its connection after it was told to disconnect
-/

namespace BrokerSession

namespace Session

variable {σ : Type} {e : Engine σ} {c : Config} {s : Session σ} {m : Move σ} {retries running : Bool}

/-- A move brings either a single piece of news, or nothing but events. -/
theorem news_cases (e : Engine σ) (s : Session σ) (m : Move σ) :
    (∃ n, s.news e m = [n]) ∨ ∃ told : List Bool, s.news e m = told.map .heard := by
  -- An answer is news about one thing at most, while a delivery may tell of several events at once.
  cases m with
  | work =>
    cases taken : s.answer? e with
    | none => exact .inr ⟨[], by simp [news, taken]⟩
    | some answer =>
      obtain ⟨x, r⟩ := answer
      have eq : s.news e .work = x.news r := by simp [news, taken]
      rw [eq, Exchange.news]
      split
      · split
        · exact .inr ⟨[], rfl⟩
        · exact .inl ⟨_, rfl⟩
      · split
        · exact .inr ⟨[], rfl⟩
        · exact .inl ⟨_, rfl⟩
      · exact .inl ⟨_, rfl⟩
      · exact .inr ⟨[], rfl⟩
  | deliver =>
    refine .inr ?_
    cases delivered : e.deliver s.engine s.clock with
    | none => exact ⟨[], by simp [news, delivered]⟩
    | some step =>
      obtain ⟨reports, engine⟩ := step
      have eq : s.news e .deliver = s.newsIn reports := by simp [news, delivered]
      rw [eq, newsIn]
      split
      · exact ⟨_, rfl⟩
      · exact ⟨[], rfl⟩
  | _ => exact .inr ⟨[], rfl⟩

/-- The news of a move make a session connected exactly if their last word is that a connect was accepted. -/
theorem learnAll_news_eq_connected_iff {p : Phase} (unconnected : p ≠ .connected) :
    p.learnAll retries running (s.news e m) = .connected ↔
      (s.news e m).getLast? = some (.heard true) := by
  rcases news_cases e s m with ⟨n, eq⟩ | ⟨told, eq⟩
  · rw [eq, Phase.learnAll_singleton, List.getLast?_singleton, Option.some.injEq]
    constructor
    · intro connected
      by_contra other
      exact Phase.learn_ne_connected unconnected other connected
    · rintro rfl
      rfl
  · rw [eq]
    rcases told.eq_nil_or_concat with rfl | ⟨told, there, rfl⟩
    · simpa using unconnected
    · rw [List.concat_eq_append, List.map_append, List.map_singleton, Phase.learnAll_append,
        List.getLast?_concat, Phase.learnAll_singleton]
      cases there with
      | true => simp [Phase.learn]
      | false => simpa using Phase.learn_lost_ne_connected

/-- A session that is meant to rest, and is not connected, is connected by a move exactly if the last it
hears in the move is that a connect was accepted. -/
theorem isConnected_move_iff (attended : s.Attended retries) (rests : s.standing.running = false)
    (unconnected : s.standing.isConnected = false) (sound : m ≠ .crash) (quiet : m.connects = false) :
    (s.move e c m).standing.isConnected = true ↔ (s.news e m).getLast? = some (.heard true) := by
  have before : s.standing.phase ≠ .connected := by simpa [Standing.isConnected] using unconnected
  rw [standing_move attended sound (Move.steers_of_quiet rests quiet),
    ← learnAll_news_eq_connected_iff before]
  exact beq_iff_eq

/-- From a state in which it is meant to rest and is not connected, a session stays unconnected through a
run without connects exactly if no move ends with the news of an accepted connect. -/
theorem Attended.unconnected_iff {ns : List (Move σ)} (attended : s.Attended retries)
    (rests : s.standing.running = false) (unconnected : s.standing.isConnected = false)
    (sound : .crash ∉ ns) (quiet : ∀ n ∈ ns, n.connects = false) :
    (∀ ps, ps <+: ns → (s.after e c ps).standing.isConnected = false) ↔
      ∀ news ∈ newsOf e c s ns, news.getLast? ≠ some (.heard true) := by
  -- The induction is on the run. The first move connects the session exactly if it ends with the news. If it does
  -- both sides fail here, and if not the rest of the run decides.
  induction ns generalizing s with
  | nil =>
    refine iff_of_true (fun ps behind => ?_) fun news told => nomatch told
    rw [List.prefix_nil.mp behind]
    exact unconnected
  | cons n ns ih =>
    obtain ⟨first, rest⟩ := List.forall_mem_cons.mp quiet
    have fine : n ≠ .crash := fun crash => sound (crash ▸ List.mem_cons_self)
    have next : (s.move e c n).Attended retries :=
      move_of_move? attended fun t made => attended.move fine made
    have resting : (s.move e c n).standing.running = false := by
      rw [standing_move attended fine (Move.steers_of_quiet rests first)]
      exact rests
    have step := isConnected_move_iff (e := e) (c := c) attended rests unconnected fine first
    have later (quietly : (s.move e c n).standing.isConnected = false) :=
      ih next resting quietly (fun crash => sound (List.mem_cons_of_mem _ crash)) rest
    rw [newsOf, List.forall_mem_cons]
    constructor
    · intro never
      have quietly := never [n] (List.prefix_append [n] ns)
      refine ⟨fun accepted => ?_, (later quietly).mp fun ps behind => ?_⟩
      · rw [show (s.after e c [n]) = s.move e c n from rfl, step.mpr accepted] at quietly
        cases quietly
      · exact never (n :: ps) (List.cons_prefix_cons.mpr ⟨rfl, behind⟩)
    · rintro ⟨unheard, others⟩ ps behind
      have quietly : (s.move e c n).standing.isConnected = false := by
        simpa using mt step.mp unheard
      rcases List.prefix_cons_iff.mp behind with rfl | ⟨qs, rfl, inner⟩
      · exact unconnected
      · exact (later quietly).mpr others qs inner

/-- A session that was told to disconnect is never connected before the next connect exactly if it hears of
no accepted connect in the meantime: no move ends with that news. The answer to a connect that was under way
is such news. -/
theorem never_connected_iff {hosted : Bool} {fs : Files} {env : Environment} {clientId : String}
    {wanted : List Notice.Kind} {directory : Directory Listener} {engine engine' : σ}
    (established : establish e hosted fs env c clientId wanted directory engine = (.ok s, engine'))
    (ms ns : List (Move σ)) (sound : .crash ∉ ms ++ ns)
    (present : (s.after e c ms).tornDown = false)
    (running : (s.after e c ms).standing.running = true)
    (quiet : ∀ n ∈ ns, n.connects = false) :
    let t := (s.after e c ms).obey c (.request .disconnect)
    (∀ ps, ps <+: ns → (t.after e c ps).standing.isConnected = false) ↔
      ∀ news ∈ newsOf e c t ns, news.getLast? ≠ some (.heard true) := by
  intro t
  rw [List.mem_append, not_or] at sound
  have before := (Attended.of_establish established).after (e := e) (c := c) sound.1
  have attended : t.Attended c.retry.isEnabled := before.obey _
  have parting : t.standing = ⟨.disconnecting, false⟩ := by
    simp only [t, obey_eq present (before.order.taking present), Order.standing, running, if_true]
  exact attended.unconnected_iff (by rw [parting]) (by rw [parting]; rfl) sound.2 quiet

/-- A session that has heard of its connection before it is told to disconnect is not connected any more
while it parts. -/
theorem never_connected_iff_heard_before :
    let c := Config.ofEndpoint "sensor" "localhost" 1883 60
    let ns : List (Move Loopback) := [.work, .work, .deliver, .deliver, .work]
    ∃ s engine,
      establish Loopback.engine true .empty [] c "sensor" [] .empty (.fresh [] [] 0) = (.ok s, engine) ∧
      let t := s.after Loopback.engine c
        [.order (.request .connectConfigured), .work, .work, .work, .deliver]
      t.standing.isConnected = true ∧
      ∀ ps, ps <+: ns →
        ((t.obey c (.request .disconnect)).after Loopback.engine c ps).standing.isConnected = false := by
  refine ⟨_, _, rfl, rfl, ?_⟩
  refine (never_connected_iff (show establish Loopback.engine true .empty []
    (.ofEndpoint "sensor" "localhost" 1883 60) "sensor" [] .empty (.fresh [] [] 0) = (.ok _, _) from rfl)
    [.order (.request .connectConfigured), .work, .work, .work, .deliver]
    [.work, .work, .deliver, .deliver, .work] (by simp) rfl rfl (by simp [Move.connects])).mpr ?_
  decide

/-- A session that is told to disconnect while the answer to its connect is under way is connected again
when it hears the answer, although it is not meant to run. -/
theorem connected_while_parting :
    let c := Config.ofEndpoint "sensor" "localhost" 1883 60
    ∃ s engine,
      establish Loopback.engine true .empty [] c "sensor" [] .empty
        (.fresh [] [("disconnect", 100)] 0) = (.ok s, engine) ∧
      let t := s.after Loopback.engine c [.order (.request .connectConfigured)]
      t.standing.running = true ∧
      let u := (t.obey c (.request .disconnect)).after Loopback.engine c
        [.work, .work, .work, .work, .deliver]
      u.standing.running = false ∧ u.standing.isConnected = true :=
  ⟨_, _, rfl, rfl, rfl, rfl⟩

end Session

end BrokerSession
