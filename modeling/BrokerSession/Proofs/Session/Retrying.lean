import BrokerSession.Proofs.Network.Dial
import BrokerSession.Proofs.Network.Policy
import BrokerSession.Proofs.Session.Waiting

/-!
# A session knows whether its engine will retry

When a connection fails, the session and the loop of its engine decide independently of each other: the session whether
it waits for another attempt, and the loop whether it makes one. Each has a copy of the configured policy of its own.
The copies agree from the beginning and for as long as the session is meant to run, and so do the decisions. What may
come between them is that the directory of live sessions is cleared: then the session does not hear of the failure.

## Main definitions

* `Session.turn?` - a session after a turn of the loop of its network engine
* `Session.Leg` - what can happen to a session over a network
* `Session.along` - a session after a run
* `Session.Forsaken` - a session whose worker has crashed
* `Session.Wired` - a session and an engine that were made for the same configuration

## Main results

* `Wired.leg` - whatever happens, they stay so, unless the worker crashes
* `unlisted_along` - once the directory of live sessions was cleared, a session is not found in it any more
* `connecting_iff_proceed` - after a failure the session waits for a connection exactly if the loop makes an attempt
-/

namespace BrokerSession

namespace RetryPolicy

variable {policy : RetryPolicy} {attempts : Nat}

/-- A loop that was not told to stop makes another attempt exactly under a policy that retries, however many attempts
it has made. -/
theorem exists_decide_eq_proceed_iff :
    (∃ attempt delay, policy.decide attempts false = .proceed attempt delay) ↔ policy.isEnabled = true := by
  rw [← isSome_delay? policy (nextAttempt attempts)]
  cases known : policy.delay? (nextAttempt attempts) <;> simp [RetryPolicy.decide, known]

theorem decide_eq_retryDisabled_iff :
    policy.decide attempts false = .retryDisabled ↔ policy.isEnabled = false := by
  rw [← isSome_delay? policy (nextAttempt attempts)]
  cases known : policy.delay? (nextAttempt attempts) <;> simp [RetryPolicy.decide, known]

end RetryPolicy

/-- A failure leads a session to the phase in which it waits for another attempt, or for nothing. -/
theorem Listener.advance_failure (l : Listener) (s : Standing) {error : LinkError}
    (refusal : error ≠ .refused .accepted) :
    l.advance s error.event = { s with phase := l.retryPhase s.running } := by
  cases error with
  | refused answer =>
    have code : answer.code ≠ 0 := by
      cases answer with
      | accepted => exact absurd rfl refusal
      | _ => decide
    simp [LinkError.event, advance, code]
  | _ => rfl

namespace Session

/-! ## Runs of a session over a network -/

/-- Whether a move leaves the engine to its session. -/
def Move.isRegular {σ : Type} : Move σ → Bool
  | outside _ => false
  | _ => true

/-- What can happen to a session over a network: what can happen to any session, and every turn of the loop. -/
inductive Leg where
  | move (m : Move NetworkEngine) (regular : m.isRegular = true)
  | turn (turn : LoopTurn)

/-- Whether the directory of live sessions is cleared. -/
def Leg.clears : Leg → Bool
  | move .clearDirectory _ => true
  | _ => false

variable {disk : Files} {n : Network} {c : Config} {s t u : Session NetworkEngine} {legs : List Leg}

/-- The session after a turn of the loop; `none` when the loop takes no such turn. -/
def turn? (n : Network) (s : Session NetworkEngine) (turn : LoopTurn) : Option (Session NetworkEngine) :=
  (s.engine.turn? n s.clock turn).map fun (reports, engine) => reports.foldl receive { s with engine }

/-- The session after one thing has happened, if it can happen. -/
def leg? (disk : Files) (n : Network) (c : Config) (s : Session NetworkEngine) :
    Leg → Option (Session NetworkEngine)
  | .move m _ => s.move? (NetworkEngine.engine disk n) c m
  | .turn turn => s.turn? n turn

/-- The session after a run; what cannot happen is passed over. -/
def along (disk : Files) (n : Network) (c : Config) (s : Session NetworkEngine) (legs : List Leg) :
    Session NetworkEngine :=
  legs.foldl (fun s leg => (s.leg? disk n c leg).getD s) s

/-- What everything that can happen keeps is kept by a run. -/
theorem along_induction {P : Session NetworkEngine → Prop} (start : P s)
    (step : ∀ t, P t → ∀ leg ∈ legs, ∀ u, t.leg? disk n c leg = some u → P u) :
    P (s.along disk n c legs) := by
  induction legs generalizing s with
  | nil => exact start
  | cons leg legs ih =>
    refine ih (s := (s.leg? disk n c leg).getD s) ?_ fun t kept l later =>
      step t kept l (List.mem_cons_of_mem _ later)
    cases made : s.leg? disk n c leg with
    | none => exact start
    | some t => exact step s start leg List.mem_cons_self t made

/-- The steps of the event loop are turns. -/
theorem turn?_of_loopStep? (made : s.loopStep? (NetworkEngine.engine disk n) = some t) :
    ∃ turn, s.turn? n turn = some t := by
  obtain ⟨⟨reports, engine⟩, delivered, rfl⟩ := Option.map_eq_some_iff.mp made
  obtain ⟨turn, taken⟩ := NetworkEngine.turn?_of_deliver delivered
  exact ⟨turn, by simp [turn?, taken]⟩

/-- A turn moves the engine, at most the phase, and adds to the journal. -/
theorem turn?_frame {turn : LoopTurn} (made : s.turn? n turn = some t) :
    ∃ reports engine phase journal, s.engine.turn? n s.clock turn = some (reports, engine) ∧ t =
      { s with engine, standing := { s.standing with phase }, journal := s.journal ++ journal } := by
  obtain ⟨⟨reports, engine⟩, taken, rfl⟩ := Option.map_eq_some_iff.mp made
  obtain ⟨phase, journal, eq⟩ := foldl_receive_frame reports { s with engine }
  exact ⟨reports, engine, phase, journal, taken, eq⟩

/-! ## A session whose worker crashed -/

/-- Whether the worker has crashed. It has taken the engine along, and no loop is left to see anything. -/
structure Forsaken (s : Session NetworkEngine) : Prop where
  crashed : s.queue.worker = .crashed
  free : s.exchange = none
  silent : s.engine.task = none

theorem forsaken_of_crash (made : s.move? (NetworkEngine.engine disk n) c .crash = some t) : t.Forsaken := by
  obtain ⟨-, rfl⟩ := eq_of_crash made
  rw [crash_frame]
  exact ⟨rfl, rfl, rfl⟩

namespace Forsaken

theorem turn?_eq_none (h : s.Forsaken) (turn : LoopTurn) : s.turn? n turn = none := by
  simp [turn?, NetworkEngine.turn?, h.silent]

/-- Nothing starts a loop again. -/
theorem leg {leg : Leg} (h : s.Forsaken) (made : s.leg? disk n c leg = some t) : t.Forsaken := by
  have still (turn : LoopTurn) : s.turn? n turn ≠ some t := by
    rw [h.turn?_eq_none]
    exact nofun
  cases leg with
  | turn turn => exact absurd made (still turn)
  | move m regular =>
    change s.move? (NetworkEngine.engine disk n) c m = some t at made
    cases m with
    | order o =>
      obtain rfl := Option.some.inj made
      have closed : s.queue.isClosed = true := by simp [WorkQueue.isClosed, h.crashed]
      obtain ⟨queue, exchange, engine⟩ := obey_of_isClosed (c := c) closed o
      exact ⟨queue ▸ h.crashed, exchange ▸ h.free, engine ▸ h.silent⟩
    | work =>
      -- The worker is gone, and with it whatever was at work.
      cases workerStep_of_workerStep? made with
      | dismiss _ alive | begin _ alive | retire _ alive =>
        rw [h.crashed] at alive
        cases alive
      | goOn busy | finish busy =>
        rw [h.free] at busy
        cases busy
    | deliver =>
      obtain ⟨turn, taken⟩ := turn?_of_loopStep? made
      exact absurd taken (still turn)
    | close =>
      obtain ⟨-, rfl⟩ := eq_of_close made
      exact ⟨h.crashed, h.free, h.silent⟩
    | pass millis | clearDirectory =>
      obtain rfl := Option.some.inj made
      exact ⟨h.crashed, h.free, h.silent⟩
    | crash => exact forsaken_of_crash made
    | outside f => cases regular

theorem along (h : s.Forsaken) (legs : List Leg) : (s.along disk n c legs).Forsaken :=
  along_induction h fun _ h _ _ _ made => h.leg made

end Forsaken

/-! ## A session and its engine -/

/-- What holds of a session and of its engine when both were made for the same configuration. -/
structure Wired (c : Config) (s : Session NetworkEngine) : Prop where
  attended : s.Attended c.retry.isEnabled
  guided : s.engine.Guided c.retry
  /-- A session that was let go is not meant to run. -/
  rests : s.tornDown = true → s.standing.running = false
  /-- Until then its engine tells it what happens, and is not let go. -/
  heard : s.tornDown = false → s.engine.attached = true
  kept : s.tornDown = false → ∀ k ∈ s.pending, k.task ≠ .destroy

namespace Wired

theorem obey (h : s.Wired c) (o : Order) : (s.obey c o).Wired c := by
  have rests := rests_obey (c := c) h.attended.order h.rests o
  cases here : s.tornDown with
  | true => rwa [obey_of_tornDown here]
  | false =>
    have taking := h.attended.order.taking here
    have same : (s.obey c o).engine = s.engine := by rw [obey_eq here taking]
    refine ⟨h.attended.obey o, same ▸ h.guided, rests, fun _ => same ▸ h.heard here, ?_⟩
    · rw [obey_eq here taking]
      intro stays k remains
      simp only [pending, ← List.append_assoc] at remains
      rcases List.mem_append.mp remains with old | new
      · exact h.kept here k old
      · obtain ⟨task, brought, rfl⟩ := List.mem_map.mp new
        rintro rfl
        exact Order.destroy_notMem_tasks stays brought

/-- As long as the session is there the engine does not hear that it is let go. -/
theorem command_ne_destroy {x : Exchange} (h : s.Wired c) (here : s.tornDown = false)
    (busy : s.exchange = some x) : x.command ≠ .destroy := by
  obtain ⟨a, before, talk⟩ := h.attended.order.talking x busy
  refine talk.command_eq_destroy_iff.not.mpr (h.kept here x.job ?_)
  rw [h.attended.order.pending_of_busy busy]
  exact List.mem_cons_self

theorem workerStep (h : s.Wired c) (step : WorkerStep (NetworkEngine.engine disk n) s t) : t.Wired c := by
  have attended := h.attended.workerStep step
  have behind := h.attended.order.pending_suffix step
  have kept : s.tornDown = false → ∀ k ∈ t.pending, k.task ≠ .destroy :=
    fun here k remains => h.kept here k (behind.subset remains)
  have rests : s.tornDown = true → t.standing.running = false := fun gone => step.running.trans (h.rests gone)
  cases step with
  | dismiss => exact ⟨attended, h.guided, rests, h.heard, kept⟩
  | @begin job rest cmd =>
    exact ⟨attended, h.guided.call cmd, rests,
      fun here => (NetworkEngine.attached_call cmd).trans (h.heard here), kept⟩
  | retire _ _ _ closed =>
    refine ⟨attended, ⟨h.guided.settings, nofun⟩, rests, fun here => ?_, kept⟩
    -- Only a queue that was closed lets its worker end.
    have taking := h.attended.order.taking here
    simp [WorkQueue.isClosed, closed] at taking
  | @goOn x r engine cmd earlier busy answered =>
    obtain ⟨guided, told⟩ := h.guided.finish answered
    refine ⟨attended, guided.call cmd, rests, fun here => ?_, kept⟩
    exact (NetworkEngine.attached_call cmd).trans ((told (h.command_ne_destroy here busy)).trans (h.heard here))
  | @finish x r engine reply busy answered =>
    obtain ⟨guided, told⟩ := h.guided.finish answered
    exact ⟨attended, guided, rests,
      fun here => (told (h.command_ne_destroy here busy)).trans (h.heard here), kept⟩

theorem turn {turn : LoopTurn} (h : s.Wired c) (made : s.turn? n turn = some t) : t.Wired c := by
  obtain ⟨reports, engine, phase, journal, taken, rfl⟩ := turn?_frame made
  obtain ⟨guided, told⟩ := h.guided.turn taken
  have order := h.attended.order
  exact ⟨⟨⟨order.working, order.talking, order.taking, order.running, order.resting⟩, h.attended.listener⟩,
    guided, h.rests, fun here => told.trans (h.heard here), h.kept⟩

/-- Whatever happens, a session and its engine stay as they were made, unless the worker crashes. -/
theorem leg {leg : Leg} (h : s.Wired c) (made : s.leg? disk n c leg = some t) : t.Forsaken ∨ t.Wired c := by
  cases leg with
  | turn turn => exact .inr (h.turn made)
  | move m regular =>
    change s.move? (NetworkEngine.engine disk n) c m = some t at made
    by_cases sound : m = .crash
    · subst sound
      exact .inl (forsaken_of_crash made)
    · right
      have attended := h.attended.move sound made
      have rests := rests_move h.attended.order h.rests sound made
      cases m with
      | order o =>
        obtain rfl := Option.some.inj made
        exact h.obey o
      | work => exact h.workerStep (workerStep_of_workerStep? made)
      | deliver =>
        obtain ⟨turn, taken⟩ := turn?_of_loopStep? made
        exact h.turn taken
      | close =>
        obtain ⟨-, rfl⟩ := eq_of_close made
        exact ⟨attended, h.guided, rests, h.heard, h.kept⟩
      | pass millis | clearDirectory =>
        obtain rfl := Option.some.inj made
        exact ⟨attended, h.guided, rests, h.heard, h.kept⟩
      | crash => exact absurd rfl sound
      | outside f => cases regular

/-- What the legs of a run keep, as long as a session and its engine are as they were made, is kept by the run. -/
theorem along_keeps {P : Session NetworkEngine → Prop} (h : s.Wired c) (start : P s)
    (step : ∀ t, t.Wired c → P t → ∀ leg ∈ legs, ∀ u, t.leg? disk n c leg = some u → P u) :
    (s.along disk n c legs).Forsaken ∨ ((s.along disk n c legs).Wired c ∧ P (s.along disk n c legs)) := by
  refine along_induction (P := fun u => u.Forsaken ∨ (u.Wired c ∧ P u)) (.inr ⟨h, start⟩) ?_
  rintro t (lost | ⟨wired, kept⟩) leg among u made
  · exact .inl (lost.leg made)
  · rcases wired.leg made with lost | wired'
    · exact .inl lost
    · exact .inr ⟨wired', step t wired kept leg among u made⟩

theorem along (h : s.Wired c) (legs : List Leg) :
    (s.along disk n c legs).Forsaken ∨ (s.along disk n c legs).Wired c :=
  (h.along_keeps (P := fun _ => True) trivial fun _ _ _ _ _ _ _ => trivial).imp_right And.left

theorem of_establish {hosted : Bool} {fs : Files} {env : Environment} {clientId : String}
    {wanted : List Notice.Kind} {directory : Directory Listener} {given engine : NetworkEngine}
    (unstarted : given.task = none)
    (established : establish (NetworkEngine.engine disk n) hosted fs env c clientId wanted directory given =
      (.ok s, engine)) : s.Wired c := by
  have attended := Attended.of_establish established
  obtain ⟨staged, staging, rfl⟩ := establish_eq_ok established
  have policy := NetworkEngine.policy_of_stage staging
  refine ⟨attended, ⟨policy, fun t running => ?_⟩, fun gone => ?_, fun _ => rfl, fun _ k remains => ?_⟩
  · -- Options are settings, and no loop is started for them.
    have silent : NetworkEngine.task staged = none :=
      Config.stage_keeps (P := fun e => NetworkEngine.task e = none) (fun _ _ none => none) staging unstarted
    exact absurd (silent.symm.trans running) nofun
  · cases gone
  · cases remains

end Wired

/-! ## The decisions agree -/

/-- What becomes of the directory when nobody clears it: a session keeps its key, and is taken out only once it was let
go, which it stays. -/
theorem directory_leg {leg : Leg} (h : s.Wired c) (stays : leg.clears = false)
    (made : s.leg? disk n c leg = some t) :
    t.key = s.key ∧ (s.tornDown = true → t.tornDown = true) ∧
      (t.directory = s.directory ∨ s.tornDown = true ∧ t.directory = (s.directory.unregister s.key).2) := by
  cases leg with
  | turn turn =>
    obtain ⟨-, engine, phase, journal, -, rfl⟩ := turn?_frame made
    exact ⟨rfl, id, .inl rfl⟩
  | move m regular =>
    change s.move? (NetworkEngine.engine disk n) c m = some t at made
    cases m with
    | order o =>
      obtain rfl := Option.some.inj made
      cases here : s.tornDown with
      | true =>
        rw [obey_of_tornDown here]
        exact ⟨rfl, fun _ => here, .inl rfl⟩
      | false =>
        rw [obey_eq here (h.attended.order.taking here)]
        exact ⟨rfl, nofun, .inl rfl⟩
    | work =>
      cases workerStep_of_workerStep? made with
      | dismiss | begin | retire => exact ⟨rfl, id, .inl rfl⟩
      | @goOn x r engine _ _ busy | @finish x r engine _ busy =>
        refine ⟨rfl, id, ?_⟩
        change ({ s with engine }.heed x r).directory = s.directory ∨
          s.tornDown = true ∧ ({ s with engine }.heed x r).directory = (s.directory.unregister s.key).2
        -- Only its last job takes a session out, and that job is there only once it was let go.
        by_cases last : x.command = .destroy
        · refine .inr ⟨?_, if_pos last⟩
          by_contra here
          exact h.command_ne_destroy (by simpa using here) busy last
        · exact .inl (directory_heed last)
    | deliver =>
      obtain ⟨turn, taken⟩ := turn?_of_loopStep? made
      obtain ⟨-, engine, phase, journal, -, rfl⟩ := turn?_frame taken
      exact ⟨rfl, id, .inl rfl⟩
    | close =>
      obtain ⟨-, rfl⟩ := eq_of_close made
      exact ⟨rfl, id, .inl rfl⟩
    | pass millis =>
      obtain rfl := Option.some.inj made
      exact ⟨rfl, id, .inl rfl⟩
    | clearDirectory => cases stays
    | crash =>
      obtain ⟨-, rfl⟩ := eq_of_crash made
      rw [crash_frame]
      exact ⟨rfl, id, .inl rfl⟩
    | outside f => cases regular

/-- Until a session is let go it is found under its key. -/
def Registered (s : Session NetworkEngine) : Prop :=
  s.tornDown = false → s.directory.contains s.key = true

/-- A session loses its key by being let go, and otherwise only when the directory is cleared. -/
theorem registered_leg {leg : Leg} (h : s.Wired c) (listed : s.Registered) (stays : leg.clears = false)
    (made : s.leg? disk n c leg = some t) : t.Registered := by
  obtain ⟨key, gone, directory⟩ := directory_leg h stays made
  intro here
  have before : s.tornDown = false := by
    by_contra torn
    rw [gone (by simpa using torn)] at here
    cases here
  rcases directory with same | ⟨torn, -⟩
  · rw [same, key]
    exact listed before
  · rw [torn] at before
    cases before

theorem leg?_of_clears {leg : Leg} (clears : leg.clears = true) :
    s.leg? disk n c leg = some { s with directory := s.directory.clear } := by
  cases leg with
  | turn turn => cases clears
  | move m regular =>
    cases m with
    | clearDirectory => rfl
    | _ => cases clears

/-- A session that has lost its key does not get it back. -/
theorem unlisted_leg {leg : Leg} (h : s.Wired c) (unlisted : s.directory.lookup? s.key = none)
    (made : s.leg? disk n c leg = some t) : t.directory.lookup? t.key = none := by
  cases stays : leg.clears with
  | true =>
    obtain rfl := Option.some.inj ((leg?_of_clears stays).symm.trans made)
    exact Directory.lookup?_clear ..
  | false =>
    obtain ⟨key, -, same | ⟨-, taken⟩⟩ := directory_leg h stays made
    · rw [same, key, unlisted]
    · rw [taken, key, Directory.lookup?_unregister]

/-- Once the directory was cleared, a session is not found in it any more. -/
theorem unlisted_along (h : s.Wired c) (cleared : legs.any Leg.clears = true) :
    (s.along disk n c legs).Forsaken ∨
      (s.along disk n c legs).directory.lookup? (s.along disk n c legs).key = none := by
  -- The first leg that clears the directory takes the key out, and nothing after it brings the key back.
  induction legs generalizing s with
  | nil => cases cleared
  | cons leg legs ih =>
    change (along disk n c ((s.leg? disk n c leg).getD s) legs).Forsaken ∨
      (along disk n c ((s.leg? disk n c leg).getD s) legs).directory.lookup?
        (along disk n c ((s.leg? disk n c leg).getD s) legs).key = none
    cases clears : leg.clears with
    | false =>
      have later : legs.any Leg.clears = true := by simpa [clears] using cleared
      cases made : s.leg? disk n c leg with
      | none => exact ih h later
      | some t =>
        rcases h.leg made with lost | wired
        · exact .inl (lost.along legs)
        · exact ih wired later
    | true =>
      have made : s.leg? disk n c leg = some { s with directory := s.directory.clear } :=
        leg?_of_clears clears
      rw [made]
      rcases h.leg made with lost | wired
      · exact .inl (lost.along legs)
      · refine (wired.along_keeps (P := fun u => u.directory.lookup? u.key = none) ?_ ?_).imp_right And.right
        · exact Directory.lookup?_clear ..
        · intro t wired unlisted leg among u made
          exact unlisted_leg wired unlisted made

theorem registered_of_establish {hosted : Bool} {fs : Files} {env : Environment} {clientId : String}
    {wanted : List Notice.Kind} {directory : Directory Listener} {given engine : NetworkEngine}
    (established : establish (NetworkEngine.engine disk n) hosted fs env c clientId wanted directory given =
      (.ok s, engine)) : s.Registered := by
  obtain ⟨staged, staging, rfl⟩ := establish_eq_ok established
  intro _
  rw [Directory.contains, Directory.lookup?_register, Option.isSome_some]

/-- An event leads a session where its listener says, if it has one. -/
theorem standing_hear (s : Session NetworkEngine) (event : EngineEvent) :
    (s.hear event).standing =
      ((s.directory.lookup? s.key).map fun l => l.advance s.standing event).getD s.standing := by
  unfold hear
  cases s.directory.lookup? s.key <;> rfl

/-- Notes about attempts lead nowhere. -/
theorem standing_foldl_receive {notes : List Report}
    (plain : ∀ r ∈ notes, ∃ attempt delay, r = .retrying attempt delay) (s : Session NetworkEngine) :
    (notes.foldl receive s).standing = s.standing := by
  induction notes generalizing s with
  | nil => rfl
  | cons r notes ih =>
    obtain ⟨attempt, delay, rfl⟩ := plain r List.mem_cons_self
    exact ih (fun r' later => plain r' (List.mem_cons_of_mem _ later)) _

/-- The turn in which the loop sees a failure leads its session where the event of the failure leads. -/
theorem standing_of_failure {error : LinkError} (heard : s.engine.attached = true)
    (seen : s.turn? n (.look (.failed error)) = some u) : u.standing = (s.hear error.event).standing := by
  obtain ⟨⟨reports, engine⟩, taken, rfl⟩ := Option.map_eq_some_iff.mp seen
  obtain ⟨t, t', notes, -, rfl, rfl, turns⟩ := NetworkEngine.turns_of_turn? taken
  have plain : ∀ r ∈ notes, ∃ attempt delay, r = .retrying attempt delay := by
    cases turns with
    | retry => exact fun r there => ⟨_, _, List.mem_singleton.mp there⟩
    | giveUp => exact nofun
    | goOn _ _ holds => cases holds
  have told : s.engine.report ((LoopTurn.look (.failed error)).outcome?.bind Outcome.event?) =
      [.event error.event] := if_pos heard
  rw [told, List.singleton_append]
  refine (standing_foldl_receive plain _).trans ?_
  exact (standing_hear _ error.event).trans (standing_hear s error.event).symm

/-- A session and the loop of its engine agree about what comes after a failure. For every configuration, for every
engine on which no loop was started before it was handed over, and whatever has happened to the session since: when the
loop sees a failure while the session is meant to run and nobody has told the loop to stop, then after the event of the
failure the session waits for a connection exactly if the loop decides to make another attempt, and is disconnected
exactly if it decides that it is not to retry. Neither the failure nor the number of attempts before makes a difference.
Only a session whose key was cleared away hears nothing, and stays where it is. -/
theorem connecting_iff_proceed {hosted : Bool} {fs : Files} {env : Environment} {clientId : String}
    {wanted : List Notice.Kind} {directory : Directory Listener} {given engine : NetworkEngine} {io : IoTask}
    {error : LinkError} (unstarted : given.task = none)
    (established : establish (NetworkEngine.engine disk n) hosted fs env c clientId wanted directory given =
      (.ok s, engine))
    (reached : s.along disk n c legs = t) (meant : t.standing.running = true)
    (running : t.engine.task = some io) (untold : io.stopping = false) (refusal : error ≠ .refused .accepted)
    (seen : t.turn? n (.look (.failed error)) = some u) :
    (legs.any Leg.clears = false →
      (u.standing.phase = .connecting ↔
        ∃ attempt delay, io.loop.policy.decide io.loop.attempts io.stopping = .proceed attempt delay) ∧
      (u.standing.phase = .disconnected ↔
        io.loop.policy.decide io.loop.attempts io.stopping = .retryDisabled)) ∧
    (legs.any Leg.clears = true → u.standing = t.standing) := by
  have first : s.Wired c := .of_establish unstarted established
  -- Somebody has seen the failure, so the worker has not crashed.
  have present : ¬ t.Forsaken := by
    intro lost
    rw [lost.turn?_eq_none] at seen
    cases seen
  have wired : t.Wired c := (reached ▸ first.along legs).resolve_left present
  have here : t.tornDown = false := by
    by_contra gone
    have rests := wired.rests (by simpa using gone)
    rw [meant] at rests
    cases rests
  have moved := (standing_of_failure (wired.heard here) seen).trans (standing_hear t error.event)
  refine ⟨?_, ?_⟩
  · intro stays
    have unclear : ∀ leg ∈ legs, leg.clears = false := by simpa using stays
    have kept : t.Forsaken ∨ (t.Wired c ∧ t.Registered) := by
      rw [← reached]
      refine first.along_keeps (registered_of_establish established) ?_
      intro t wired listed leg among u made
      exact registered_leg wired listed (unclear leg among) made
    have listed : t.Registered := (kept.resolve_left present).2
    obtain ⟨l, found⟩ := Option.isSome_iff_exists.mp (listed here)
    have retries : l.autoReconnect = c.retry.isEnabled := wired.attended.listener l found
    have phase : u.standing.phase = if c.retry.isEnabled then .connecting else .disconnected := by
      rw [moved, found, Option.map_some, Option.getD_some, l.advance_failure _ refusal]
      simp [Listener.retryPhase, retries, meant]
    rw [untold, wired.guided.loop io running, RetryPolicy.exists_decide_eq_proceed_iff,
      RetryPolicy.decide_eq_retryDisabled_iff, phase]
    cases c.retry.isEnabled <;> simp
  · intro cleared
    have unlisted : t.directory.lookup? t.key = none :=
      (reached ▸ unlisted_along first cleared).resolve_left present
    rw [moved, unlisted, Option.map_none, Option.getD_none]

/-- A broker that cannot be reached at first and then refuses the login: the session waits for the second attempt. -/
theorem connecting_iff_proceed_refused :
    let n : Network := ⟨fun _ => none, 50⟩
    let c : Config := Config.ofEndpoint "sensor" "broker" 1883 60
    let legs : List Leg := [.move (.order (.request .connectConfigured)) rfl, .move .work rfl, .move .work rfl,
      .move .work rfl, .turn (.look (.failed .transport)), .move (.pass 1000) rfl, .turn .wake]
    ∃ s t u engine io,
      establish (NetworkEngine.engine .empty n) true .empty [] c "sensor" [.connect] .empty .fresh = (.ok s, engine) ∧
      s.along .empty n c legs = t ∧ t.standing.running = true ∧ t.engine.task = some io ∧ io.stopping = false ∧
      t.turn? n (.look (.failed (.refused .notAuthorized))) = some u ∧
      io.loop.policy.decide io.loop.attempts io.stopping = .proceed 2 4 ∧ u.standing.phase = .connecting := by
  refine ⟨_, _, _, _, _, rfl, rfl, rfl, rfl, rfl, rfl, rfl, ?_⟩
  have refusal : LinkError.refused .notAuthorized ≠ .refused .accepted := nofun
  have agree := connecting_iff_proceed rfl
    (show establish (NetworkEngine.engine .empty ⟨fun _ => none, 50⟩) true .empty []
      (.ofEndpoint "sensor" "broker" 1883 60) "sensor" [.connect] .empty .fresh = (.ok _, _) from rfl)
    (show along .empty ⟨fun _ => none, 50⟩ _ _ [.move (.order (.request .connectConfigured)) rfl, .move .work rfl,
      .move .work rfl, .move .work rfl, .turn (.look (.failed .transport)), .move (.pass 1000) rfl, .turn .wake] = _
      from rfl)
    rfl rfl rfl refusal rfl
  exact (agree.1 rfl).1.mpr ⟨2, 4, rfl⟩

/-- A session that was connected when the directory was cleared stays connected for its owner, although its connection
has failed and the loop has decided to make another attempt. -/
theorem connected_of_cleared :
    let n : Network := ⟨fun _ => none, 50⟩
    let c : Config := Config.ofEndpoint "sensor" "broker" 1883 60
    let legs : List Leg := [.move (.order (.request .connectConfigured)) rfl, .move .work rfl, .move .work rfl,
      .move .work rfl, .turn (.look (.arrived (.connAck .accepted false))), .move .clearDirectory rfl]
    ∃ s t u engine io,
      establish (NetworkEngine.engine .empty n) true .empty [] c "sensor" [.connect] .empty .fresh = (.ok s, engine) ∧
      s.along .empty n c legs = t ∧ t.standing.running = true ∧ t.engine.task = some io ∧ io.stopping = false ∧
      LinkError.transport ≠ .refused .accepted ∧ t.turn? n (.look (.failed .transport)) = some u ∧
      io.loop.policy.decide io.loop.attempts io.stopping = .proceed 1 1 ∧ u.standing.phase = .connected ∧
      ¬ (u.standing.phase = .connecting ↔
        ∃ attempt delay, io.loop.policy.decide io.loop.attempts io.stopping = .proceed attempt delay) :=
  ⟨_, _, _, _, _, rfl, rfl, rfl, rfl, rfl, nofun, rfl, rfl, rfl, fun agree => nomatch agree.mpr ⟨1, 1, rfl⟩⟩

end Session

end BrokerSession
