import BrokerSession.Proofs.Session.Accesses
import BrokerSession.Proofs.Session.Loopback

/-!
# Callers that overtake one another

A session is meant to run when the last call to write its flag asked for a connection, and the engine was last asked
for a connection when the last call to hand in its task did. These are two orders, for a call does both in separate
steps, and another caller may overtake it in between. When the call that wrote last also handed in last, the flag
and the engine agree. When it did not, they need not: a connect that is overtaken by a disconnect leaves a session
at rest with its engine connected, and nobody will disconnect it any more.

## Main definitions

* `lastAsks` - whether the last of some commands that steers the connection asks for one
* `Session.lastClaimant`, `Session.lastHand` - who wrote the flag last, and who handed in last
* `Session.Linked` - a connection is owed to the last command about it

## Main results

* `running_iff_lastAsks` - the flag and the engine in a crowd whose worker is idle
* `connected_while_resting` - a connect that is overtaken by a disconnect
-/

namespace BrokerSession

/-! ## Commands that ask for a connection -/

/-- Whether a command asks for a connection. -/
def Command.asks : Command → Bool
  | connect .. => true
  | reconnect => true
  | _ => false

/-- Whether the last of some commands that steers the connection asks for one; if none steers it, none asks. -/
def lastAsks (cmds : List Command) : Bool := (cmds.filter Command.steers).getLast?.any Command.asks

@[simp] theorem lastAsks_concat (cmds : List Command) (cmd : Command) :
    lastAsks (cmds ++ [cmd]) = if cmd.steers then cmd.asks else lastAsks cmds := by
  cases steers : cmd.steers <;> simp [lastAsks, steers]

theorem Command.steers_of_asks {cmd : Command} (asks : cmd.asks = true) : cmd.steers = true := by
  cases cmd <;> first | rfl | cases asks

theorem lastAsks_of_getLast? {cmds : List Command} {cmd : Command} (last : cmds.getLast? = some cmd)
    (asks : cmd.asks = true) : lastAsks cmds = true := by
  obtain ⟨before, rfl⟩ := List.getLast?_eq_some_iff.mp last
  rw [lastAsks_concat, if_pos (Command.steers_of_asks asks)]
  exact asks

theorem Task.steers_of_steering? {task : Task} {cmd : Command} (named : task.steering? = some cmd) :
    cmd.steers = true := by
  cases task <;> simp only [steering?, Option.some.injEq, reduceCtorEq] at named <;> subst named <;> rfl

/-! ## The connection of the loopback engine -/

namespace Loopback

variable {s t : Loopback} {cmd : Command} {r : Reply}

@[simp] theorem call_connected (s : Loopback) (cmd : Command) : (s.call cmd).connected = s.connected := by
  cases cmd <;> simp only [call, send, record] <;> grind

/-- A connection that is there after a command was carried out was there before, or the command asked for it. -/
theorem connected_of_perform (there : (s.perform cmd).2.connected = true) :
    s.connected = true ∧ cmd ≠ .disconnect ∨ cmd.asks = true := by
  cases cmd with
  | connect | reconnect => exact .inr rfl
  | disconnect =>
    simp only [perform, whenConnected] at there
    split at there <;> simp_all
  | destroy => cases there
  | _ =>
    refine .inl ⟨?_, fun parts => by cases parts⟩
    simp only [perform, whenConnected, publish, subscribe, unsubscribe, startLoop] at there
    grind [emit_connected]

theorem connected_of_finish (unrefused : s.failures.lookup "disconnect" = none)
    (h : s.finish cmd = some (r, t)) (there : t.connected = true) :
    s.connected = true ∧ cmd ≠ .disconnect ∨ cmd.asks = true := by
  rcases finish_eq_some h with ⟨status, refused, -, -, rfl⟩ | ⟨-, -, performed⟩ | ⟨-, -, u, collected, performed⟩
  · refine .inl ⟨there, ?_⟩
    rintro rfl
    rw [refusal?, show Call.name (.command .disconnect) = "disconnect" from rfl, unrefused] at refused
    cases refused
  · rw [show t = (s.perform cmd).2 by rw [← performed]] at there
    exact connected_of_perform there
  · have same : u.connected = s.connected := by
      obtain ⟨-, rfl⟩ := collect?_eq_some_iff.mp collected
      split <;> rfl
    rw [show t = (u.perform cmd).2 by rw [← performed]] at there
    rw [← same]
    exact connected_of_perform there

theorem connected_of_deliver {reports : List Report} (h : s.deliver = some (reports, t)) :
    t.connected = s.connected ∧ t.failures = s.failures := by
  unfold deliver at h
  split at h
  · cases h
    exact ⟨rfl, rfl⟩
  · cases h
    exact ⟨rfl, rfl⟩
  · cases h

theorem Stir.connected_of_apply {stir : Stir} (there : (stir.apply s).connected = true) :
    s.connected = true := by
  cases stir with
  | inject event => simpa only [apply, Loopback.inject, emit_connected] using there
  | drop code => simp [apply, dropConnection] at there

end Loopback

namespace Session

variable {c : Config}

/-- A connection is owed to the last command about it, unless the engine is about to end it. -/
structure Linked (s : Session (Recorded Loopback)) : Prop where
  unrefused : s.engine.inner.failures.lookup "disconnect" = none
  last : ∀ x, s.exchange = some x → s.engine.heard.getLast? = some x.command
  linked : s.engine.inner.connected = true →
    lastAsks s.engine.heard = true ∨ s.said = some .disconnect

namespace Linked

variable {s t : Session (Recorded Loopback)}

/-- The engine hears a command. -/
theorem say {job : Job} {cmd : Command} {earlier : Option Status}
    (unrefused : s.engine.inner.failures.lookup "disconnect" = none)
    (before : s.engine.inner.connected = true → lastAsks s.engine.heard = true) :
    (s.say Loopback.engine.recorded job cmd earlier).Linked := by
  refine ⟨?_, fun x new => ?_, fun there => ?_⟩
  · simpa [Session.say, Engine.recorded, Loopback.engine] using unrefused
  · obtain rfl := Option.some.inj new
    simp [Session.say, Engine.recorded]
  · have owed := before (by simpa [Session.say, Engine.recorded, Loopback.engine] using there)
    simp only [Session.say, Engine.recorded, lastAsks_concat, said, Option.map_some]
    cases cmd with
    | disconnect => exact .inr rfl
    | connect | reconnect => exact .inl rfl
    | _ => exact .inl owed

/-- After an answer a connection is owed to the last command about it. -/
theorem answer (h : s.Linked) {x : Exchange} {r : Reply} {engine : Recorded Loopback}
    (busy : s.exchange = some x)
    (answered : Loopback.engine.recorded.finish s.engine s.clock x.command = some (r, engine)) :
    engine.inner.failures.lookup "disconnect" = none ∧
      (engine.inner.connected = true → lastAsks engine.heard = true) := by
  obtain ⟨inner, finished, rfl⟩ := Engine.finish_of_recorded answered
  refine ⟨?_, fun there => ?_⟩
  · rw [← h.unrefused, Loopback.failures_of_finish finished]
  · -- The connection was there before, or the command that was answered has opened it.
    rcases Loopback.connected_of_finish h.unrefused finished there with ⟨before, other⟩ | asks
    · refine (h.linked before).resolve_right fun about => other ?_
      rw [said_of_busy busy] at about
      exact Option.some.inj about
    · exact lastAsks_of_getLast? (h.last x busy) asks

theorem workerStep (h : s.Linked) (step : WorkerStep Loopback.engine.recorded s t) : t.Linked := by
  have free (none : s.exchange = none) (there : s.engine.inner.connected = true) :
      lastAsks s.engine.heard = true :=
    (h.linked there).resolve_right (by rw [said_of_free none]; nofun)
  cases step with
  | dismiss none alive waits dismissed =>
    exact ⟨h.unrefused, fun y again => (by cases again), fun there => .inl (free none there)⟩
  | @begin job rest cmd none alive waits opens =>
    exact say (s := { s with queue := { s.queue with backlog := rest, active := some job } })
      h.unrefused (free none)
  | retire none alive empty closed =>
    exact ⟨h.unrefused, h.last, fun there => .inl (free none there)⟩
  | @goOn x r engine cmd earlier busy answered follows =>
    obtain ⟨unrefused, owed⟩ := h.answer busy answered
    exact say (s := Session.heed { s with engine } x r) unrefused owed
  | finish busy answered follows =>
    obtain ⟨unrefused, owed⟩ := h.answer busy answered
    exact ⟨unrefused, fun y again => (by cases again), fun there => .inl (owed there)⟩

/-- What happens aside from owner and worker adds no connection. -/
theorem aside {m : Move Loopback} (h : s.Linked) (aside : m.recorded.isAside = true) (ordinary : m.Ordinary)
    (made : s.move? Loopback.engine.recorded c m.recorded = some t) : t.Linked := by
  cases m with
  | deliver =>
    obtain ⟨reports, engine, phase, journal, delivered, rfl⟩ := loopStep?_frame made
    obtain ⟨inner, taken, rfl⟩ := Engine.deliver_of_recorded delivered
    obtain ⟨same, failures⟩ := Loopback.connected_of_deliver taken
    exact ⟨failures ▸ h.unrefused, h.last, fun there => h.linked (same ▸ there)⟩
  | outside f =>
    obtain ⟨stir, rfl⟩ := ordinary
    obtain rfl := Option.some.inj made
    exact ⟨by simpa using h.unrefused, h.last,
      fun there => h.linked (Loopback.Stir.connected_of_apply there)⟩
  | close =>
    obtain ⟨-, rfl⟩ := eq_of_close made
    exact ⟨h.unrefused, h.last, h.linked⟩
  | pass millis | clearDirectory =>
    obtain rfl := Option.some.inj made
    exact ⟨h.unrefused, h.last, h.linked⟩
  | order o | work | crash => cases aside

theorem congr (h : s.Linked) (same : t.engine = s.engine ∧ t.exchange = s.exchange) : t.Linked := by
  obtain ⟨engine, exchange⟩ := same
  refine ⟨engine ▸ h.unrefused, exchange ▸ engine ▸ h.last, fun there => ?_⟩
  rw [engine, said, exchange]
  exact h.linked (engine ▸ there)

end Linked

theorem Linked.step {w v : Crowd (Recorded Loopback)} {m : Crowd.Move Loopback} (h : w.session.Linked)
    (ordinary : ∀ n, m = .session n → n.Ordinary)
    (step : w.Step Loopback.engine.recorded c m.recorded v) : v.session.Linked := by
  generalize same : m.recorded = m' at step
  cases step with
  | access calling step => exact h.congr step.engine
  | ask apart asked => exact h.congr asked.engine
  | work step => exact h.workerStep step
  | crash => exact (ordinary _ (Crowd.Move.eq_crash_of_recorded same)).elim
  | aside aside made =>
    obtain ⟨n, rfl, rfl⟩ := Crowd.Move.exists_of_recorded same
    exact h.aside aside (ordinary n rfl) made

theorem linked_of_establish {hosted : Bool} {fs : Files} {env : Environment} {clientId : String}
    {wanted : List Notice.Kind} {directory : Directory Listener} {failures : List (String × Status)}
    {delays : List (String × Nat)} {code : Int} {engine : Loopback} {s : Session Loopback}
    (unrefused : failures.lookup "disconnect" = none)
    (established : establish Loopback.engine hosted fs env c clientId wanted directory
      (.fresh failures delays code) = (.ok s, engine)) : s.recording.Linked := by
  obtain ⟨calls, unused⟩ := engine_of_establish established
  obtain ⟨staged, -, rfl⟩ := establish_eq_ok established
  have begun : Loopback.engine.attach staged =
      { Loopback.fresh failures delays code with calls, attached := true } := unused
  refine ⟨?_, fun x busy => (by cases busy), fun there => ?_⟩
  · simp only [recording, withEngine, begun]
    exact unrefused
  · simp only [recording, withEngine, begun] at there
    cases there

/-! ## The two orders -/

/-- Whether an access says that the session is meant to run, or to rest from now on. -/
def Access.isClaim : Access → Bool
  | setRunning => true
  | swapRunning was => was
  | _ => false

/-- Who was the last to say whether the session is meant to run. -/
def lastClaimant (log : List (Nat × Access)) : Option Nat :=
  (log.filter (·.2.isClaim)).getLast?.map Prod.fst

/-- Who was the last to hand in a task. -/
def lastHand (log : List (Nat × Access)) : Option Nat :=
  (log.filter (·.2.steering?.isSome)).getLast?.map Prod.fst

/-- A session is meant to run when the last call that said so asks for a connection. -/
theorem Truthful.flagged_eq {log : List (Nat × Access)} (h : Truthful log) :
    flagged log = (log.filter (·.2.isClaim)).getLast?.any (·.2 = .setRunning) := by
  induction log using List.reverseRecOn with
  | nil => rfl
  | append_singleton log entry ih =>
    have before := ih h.of_append
    obtain ⟨i, access⟩ := entry
    rw [flagged_concat, List.filter_append]
    cases access with
    | setRunning => simp [Access.runs, Access.isClaim]
    | swapRunning was =>
      cases was with
      | true => simp [Access.runs, Access.isClaim]
      | false =>
        -- Who finds the session at rest leaves it at rest.
        have rests : false = flagged log := h log i false [] rfl
        simpa [Access.runs, Access.isClaim, ← rests] using before
    | setPhase phase | enqueue task => simpa [Access.runs, Access.isClaim] using before

/-- The engine is asked for a connection when the last call to hand in its task asks for one. -/
theorem lastAsks_requested (log : List (Nat × Access)) :
    lastAsks (requested log) =
      (log.filter (·.2.steering?.isSome)).getLast?.any (·.2.steering?.any Command.asks) := by
  induction log using List.reverseRecOn with
  | nil => rfl
  | append_singleton log entry ih =>
    rw [requested_concat, List.filter_append]
    cases named : entry.2.steering? with
    | none => simpa [named] using ih
    | some cmd =>
      have steers : cmd.steers = true := by
        obtain ⟨i, access⟩ := entry
        cases access with
        | enqueue task => exact Task.steers_of_steering? named
        | _ => cases named
      simp [named, steers]

/-- When the same caller was the last to say whether the session is meant to run and the last to hand in its task,
the flag agrees with what the engine is asked for. -/
theorem flagged_of_lastClaimant {steers : List Steer} {w : Crowd (Recorded Loopback)}
    (h : w.Logged steers) (same : lastClaimant w.log = lastHand w.log) :
    flagged w.log = lastAsks (requested w.log) := by
  rw [h.flagged.truthful.flagged_eq, lastAsks_requested]
  simp only [lastClaimant, lastHand] at same
  cases claimed : (w.log.filter (·.2.isClaim)).getLast? with
  | none =>
    rw [claimed] at same
    rw [Option.map_eq_none_iff.mp same.symm]
    rfl
  | some claim =>
    cases handed : (w.log.filter (·.2.steering?.isSome)).getLast? with
    | none =>
      rw [claimed, handed] at same
      cases same
    | some hand =>
      rw [claimed, handed] at same
      obtain ⟨i, access⟩ := claim
      obtain ⟨j, access'⟩ := hand
      obtain rfl : i = j := Option.some.inj same
      obtain ⟨among, isClaim⟩ := List.mem_filter.mp (List.mem_of_getLast? claimed)
      obtain ⟨among', named⟩ := List.mem_filter.mp (List.mem_of_getLast? handed)
      -- Both accesses belong to the same call, and tell what it is.
      obtain ⟨steer, who, own⟩ := h.traced.mem among
      obtain ⟨steer', who', own'⟩ := h.traced.mem among'
      obtain rfl : steer = steer' := Option.some.inj (who.symm.trans who')
      have first : access = steer.claim := by
        rcases own with rfl | ⟨-, rfl | rfl | rfl⟩
        · cases isClaim
        · rfl
        · cases isClaim
        · cases isClaim
      have last : access' = .enqueue steer.task := by
        rcases own' with rfl | ⟨-, rfl | rfl | rfl⟩
        · cases named
        · cases steer <;> cases named
        · cases named
        · rfl
      rw [first, last]
      cases steer <;> rfl

/-! ## The flag and the engine -/

/-- In every run of a crowd whose callers alone steer the session, over an engine that does not refuse to
disconnect: the session is meant to run if the last access to its flag said so, and when the worker is idle the engine
has heard the commands in the order in which the callers handed them in. So the flag agrees with the last command
exactly if these two orders end in calls of the same kind; they do if the same call came last in both. An engine that
was last asked to disconnect is not connected. -/
theorem running_iff_lastAsks {hosted : Bool} {fs : Files} {env : Environment} {clientId : String}
    {wanted : List Notice.Kind} {directory : Directory Listener} {failures : List (String × Status)}
    {delays : List (String × Nat)} {code : Int} {engine : Loopback} {s : Session Loopback}
    (unrefused : failures.lookup "disconnect" = none)
    (established : establish Loopback.engine hosted fs env c clientId wanted directory
      (.fresh failures delays code) = (.ok s, engine))
    (steers : List Steer) (ms : List (Crowd.Move Loopback)) (undirected : Crowd.Undirected ms)
    (ordinary : ∀ m, .session m ∈ ms → m.Ordinary) :
    let w := (s.recording.crowd steers).after Loopback.engine.recorded c (ms.map Crowd.Move.recorded)
    w.plain = (s.crowd steers).after Loopback.engine c ms ∧
      w.session.standing.running = flagged w.log ∧
      (w.session.queue.isIdle = true →
        w.session.engine.heard.filter Command.steers = requested w.log ∧
        (w.session.standing.running = lastAsks w.session.engine.heard ↔
          flagged w.log = lastAsks (requested w.log)) ∧
        (lastClaimant w.log = lastHand w.log →
          w.session.standing.running = lastAsks w.session.engine.heard) ∧
        (lastAsks w.session.engine.heard = false → w.session.engine.inner.connected = false)) := by
  intro w
  obtain ⟨logged, alive⟩ : w.Logged steers ∧
      (.session .crash ∉ ms → w.session.queue.worker = .alive) :=
    Crowd.logged_after established steers undirected
  have present : s.tornDown = false := (Crowd.logged_of_establish established steers).2.2
  have linked : w.session.Linked :=
    Crowd.recorded_induction (w := s.recording.crowd steers) (P := fun w => w.session.Linked)
      (linked_of_establish unrefused established) present undirected
      fun w v m among h step => h.step (fun n same => ordinary n (same ▸ among)) step
  refine ⟨Crowd.plain_after ms, logged.flagged.running, fun idle => ?_⟩
  have sound : .session .crash ∉ ms := fun crash => ordinary _ crash
  have heard : w.session.engine.heard.filter Command.steers = requested w.log :=
    logged.accounted.heard_of_idle idle (alive sound)
  -- Only what steers the connection counts for what the engine was last asked.
  have last : lastAsks w.session.engine.heard = lastAsks (requested w.log) := by
    rw [← heard, lastAsks, lastAsks, List.filter_filter]
    simp
  have running : w.session.standing.running = flagged w.log := logged.flagged.running
  refine ⟨heard, by rw [running, last], fun same => ?_, fun rests => ?_⟩
  · rw [running, last]
    exact flagged_of_lastClaimant logged same
  · by_contra there
    -- Nobody owes the connection: the last command parts, and no disconnect is at work.
    rcases linked.linked (by simpa using there) with asks | about
    · rw [rests] at asks
      cases asks
    · rw [said_of_free (logged.accounted.free_of_idle idle)] at about
      cases about

/-- A disconnect that overlaps a connect, and comes after it in both orders, leaves nothing connected. -/
theorem running_iff_lastAsks_overlapping :
    let c := Config.ofEndpoint "sensor" "broker" 1883 60
    let ms : List (Crowd.Move Loopback) :=
      [.access 0, .access 1, .access 0, .session .work, .access 0, .access 1, .session .work, .access 1,
        .session .work, .session .work, .session .deliver, .session .work, .session .work,
        .session .deliver, .session .deliver, .session .work]
    ∃ s engine,
      establish Loopback.engine true .empty [] c "sensor" [] .empty (.fresh [] [] 0) = (.ok s, engine) ∧
      let w := (s.recording.crowd [.connect "broker" 1883 60, .disconnect]).after
        Loopback.engine.recorded c (ms.map Crowd.Move.recorded)
      w.isDone = true ∧ w.session.standing.running = lastAsks w.session.engine.heard ∧
        w.session.engine.inner.connected = false := by
  refine ⟨_, _, rfl, ?_⟩
  obtain ⟨-, -, done⟩ := running_iff_lastAsks rfl (show establish Loopback.engine true .empty []
    (.ofEndpoint "sensor" "broker" 1883 60) "sensor" [] .empty (.fresh [] [] 0) = (.ok _, _) from rfl)
    [.connect "broker" 1883 60, .disconnect]
    [.access 0, .access 1, .access 0, .session .work, .access 0, .access 1, .session .work, .access 1,
      .session .work, .session .work, .session .deliver, .session .work, .session .work,
      .session .deliver, .session .deliver, .session .work]
    (by simp [Crowd.Undirected, Move.steers]) (by simp [Move.Ordinary])
  obtain ⟨-, -, agree, gone⟩ := done rfl
  exact ⟨rfl, agree rfl, gone rfl⟩

/-- A connect that is overtaken by a disconnect: it says first that the session is meant to run, and hands in its task
last. Nothing is left to do then, the engine is connected, and the session reports that it is not meant to run; so a
further disconnect is over at once and leaves the engine connected. -/
theorem connected_while_resting :
    let c := Config.ofEndpoint "sensor" "broker" 1883 60
    let ms : List (Crowd.Move Loopback) :=
      [.access 0, .access 1, .access 1, .access 1, .access 0, .access 0, .session .work, .session .work,
        .session .work, .session .work, .session .work, .session .work, .access 2]
    ∃ s engine,
      establish Loopback.engine true .empty [] c "sensor" [] .empty (.fresh [] [] 0) = (.ok s, engine) ∧
      let w := (s.recording.crowd [.connect "broker" 1883 60, .disconnect, .disconnect]).after
        Loopback.engine.recorded c (ms.map Crowd.Move.recorded)
      w.isDone = true ∧ w.session.standing.running = false ∧
        w.session.engine.heard = [.disconnect, .stopLoop, .connect "broker" 1883 60, .startLoop] ∧
        lastAsks w.session.engine.heard = true ∧ w.session.engine.inner.connected = true := by
  refine ⟨_, _, rfl, ?_⟩
  exact ⟨rfl, rfl, rfl, rfl, rfl⟩

end Session

end BrokerSession
