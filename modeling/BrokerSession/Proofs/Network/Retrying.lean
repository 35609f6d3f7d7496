import BrokerSession.Proofs.Histories
import BrokerSession.Proofs.Network.Turns
import Mathlib.Data.List.DropRight

/-!
# How a loop retries, over all that may happen to it

A loop looks at its connection for as long as nobody stops it, and tries again after failures as its policy says. It
counts its attempts in a number of 32 bits, starts over only when the broker accepts the connection, and may be told to
stop between any two of its turns. Its whole history tells how often it has failed in a row, and that is what the next
attempt is numbered and delayed by.

## Main definitions

* `Moment` - a turn of the loop, with its time and what it reported
* `failuresInARow` - the failures since the broker last accepted the connection
* `Ending`, `Ended` - the turns that end a loop with a history, and the histories that have come to an end
* `Lived` - how a loop stands after a history
* `NetworkEngine.Watched` - the histories of the loop of an engine

## Main results

* `RetryPolicy.delay?_lastAttempt` - the count of attempts stands still where the delay has long stood still
* `Lived.turned` - what a turn keeps of the relation between a loop and its history
* `NetworkEngine.reports_of_watched` - what a loop reports, when it retries and when it ends
-/

namespace BrokerSession

/-- The count of attempts stops at its largest number, and nothing is lost: the delay has reached the ceiling there. -/
theorem RetryPolicy.delay?_lastAttempt (policy : RetryPolicy) (attempt : Nat) :
    policy.delay? (min attempt lastAttempt) = policy.delay? attempt := by
  cases policy with
  | disabled => rfl
  | backoff initial ceiling quadratic =>
    by_cases grows : initial < ceiling
    · by_cases counted : attempt ≤ lastAttempt
      · rw [Nat.min_eq_left counted]
      · have beyond : lastAttempt ≤ attempt := Nat.le_of_not_le counted
        rw [Nat.min_eq_right beyond, delay?_backoff quadratic _ grows, delay?_backoff quadratic _ grows]
        -- By then a delay has reached every ceiling that 32 bits can hold, unless it does not grow at all.
        have capped {k : Nat} (late : lastAttempt ≤ k) :
            min (initial.toNat * growth quadratic k) ceiling.toNat = if initial = 0 then 0 else ceiling.toNat := by
          by_cases none : initial = 0
          · simp [none]
          · have some : 1 ≤ initial.toNat := Nat.pos_of_ne_zero fun h => none (UInt32.toNat_inj.mp h)
            have large : lastAttempt ≤ growth quadratic k := by
              have least : k ≤ max k 1 := Nat.le_max_left k 1
              cases quadratic with
              | false => exact late.trans least
              | true => exact (late.trans least).trans (Nat.le_mul_self _)
            have most : ceiling.toNat ≤ lastAttempt := Nat.le_pred_of_lt ceiling.toNat_lt_size
            have product : growth quadratic k ≤ initial.toNat * growth quadratic k := Nat.le_mul_of_pos_left _ some
            rw [if_neg none, Nat.min_eq_right (by omega)]
        rw [capped (Nat.le_refl _), capped beyond]
    · simp [delay?, grows]

/-! ## Histories -/

/-- What happened to a loop at a time, and what it reported then. -/
structure Moment where
  time : Nat
  turn : LoopTurn
  reports : List Report
  deriving DecidableEq

/-- The event that is reported, if it is one. -/
def Report.event? : Report → Option EngineEvent
  | event e => some e
  | retrying .. => none

/-- The outcomes of a history, the oldest first. -/
def outcomes (ms : List Moment) : List Outcome := ms.filterMap (·.turn.outcome?)

/-- The events that were reported during a history, the oldest first. -/
def events (ms : List Moment) : List EngineEvent := ms.flatMap fun m => m.reports.filterMap Report.event?

/-- Whether the loop was told to stop. -/
def signalled (ms : List Moment) : Bool := ms.any (·.turn == .signal)

/-- The failures since the broker last accepted the connection, or since the beginning. -/
def failuresInARow (os : List Outcome) : Nat := (os.rtakeWhile fun o => !o.isWelcome).countP Outcome.isFailure

/-- The turns that end a loop. -/
inductive Ending (policy : RetryPolicy) (early : List Moment) : LoopTurn → Prop
  /-- It has written what ends the connection. -/
  | parted : Ending policy early (.look (.written .disconnect))
  /-- It was told to stop, and heeds that. -/
  | heeded (told : signalled early = true) : Ending policy early .heed
  /-- It was told to stop, and notices that after a failure. -/
  | overheard {e : LinkError} (told : signalled early = true) : Ending policy early (.look (.failed e))
  /-- It is not to retry, and this is the first failure. -/
  | unretried {e : LinkError} (never : policy = .disabled)
    (first : ∀ o ∈ outcomes early, o.isFailure = false) : Ending policy early (.look (.failed e))

section Concat

variable (ms : List Moment) (m : Moment)

@[simp] theorem outcomes_concat : outcomes (ms ++ [m]) = outcomes ms ++ m.turn.outcome?.toList := by
  cases h : m.turn.outcome? <;> simp [outcomes, h]

@[simp] theorem events_concat : events (ms ++ [m]) = events ms ++ m.reports.filterMap Report.event? := by
  simp [events]

@[simp] theorem signalled_concat : signalled (ms ++ [m]) = (signalled ms || m.turn == .signal) := by
  simp [signalled]

theorem failuresInARow_concat (os : List Outcome) (o : Outcome) :
    failuresInARow (os ++ [o]) = if o.isWelcome then 0 else failuresInARow os + o.isFailure.toNat := by
  cases welcome : o.isWelcome <;> cases failure : o.isFailure <;>
    simp [failuresInARow, welcome, failure]

end Concat

/-- Whether a loop has come to its end: after a turn that ended it, it was at most told to stop. -/
def Ended (policy : RetryPolicy) (ms : List Moment) : Prop :=
  ∃ early m late, ms = early ++ m :: late ∧ Ending policy early m.turn ∧
    ∀ m' ∈ late, m'.turn = .signal ∧ m'.reports = []

theorem ended_concat_iff {policy : RetryPolicy} {ms : List Moment} {m : Moment} :
    Ended policy (ms ++ [m]) ↔
      Ending policy ms m.turn ∨ (Ended policy ms ∧ m.turn = .signal ∧ m.reports = []) :=
  exists_split_concat (P := fun early m => Ending policy early m.turn)
    (Q := fun m => m.turn = .signal ∧ m.reports = [])

/-! ## A loop and its history -/

/-- What a loop adds to the report of a turn, when it has a history: what it says of the next attempt. -/
def retrials (policy : RetryPolicy) (early : List Moment) : LoopTurn → List Report
  | .look (.failed _) =>
    if signalled early then []
    else
      let k := failuresInARow (outcomes early) + 1
      ((policy.delay? k).map fun delay => Report.retrying (min k RetryPolicy.lastAttempt) delay).toList
  | _ => []

/-- How a loop with a policy stands after a history. -/
structure Lived (policy : RetryPolicy) (ms : List Moment) (t : IoTask) : Prop where
  keeps : t.loop.policy = policy
  attempts : t.finished = false →
    t.loop.attempts = min (failuresInARow (outcomes ms)) RetryPolicy.lastAttempt
  stopping : t.stopping = signalled ms
  finished : t.finished = true ↔ Ended policy ms
  /-- A loop that is not to retry does not outlive a failure. -/
  unfailed : policy = .disabled → t.finished = false → ∀ o ∈ outcomes ms, o.isFailure = false
  /-- A rest that was announced is still going on, or something happened after its time. -/
  rested : ∀ m ∈ ms, ∀ attempt delay, .retrying attempt delay ∈ m.reports →
    (t.resting = true ∧ m.time + 1000 * delay ≤ t.next) ∨ ∃ w ∈ ms, m.time + 1000 * delay ≤ w.time

namespace Lived

variable {n : Network} {policy : RetryPolicy} {ms : List Moment} {t t' : IoTask} {now : Nat} {turn : LoopTurn}
  {extra : List Report}

/-- After a failure a loop tries again exactly if it was not told to stop and its policy knows a delay. -/
theorem decide_eq_proceed_iff (f : Lived policy ms t) (runs : t.finished = false) {attempt delay : Nat} :
    t.loop.policy.decide t.loop.attempts t.stopping = .proceed attempt delay ↔
      signalled ms = false ∧ min (failuresInARow (outcomes ms) + 1) RetryPolicy.lastAttempt = attempt ∧
        policy.delay? (failuresInARow (outcomes ms) + 1) = some delay := by
  have next : RetryPolicy.nextAttempt t.loop.attempts =
      min (failuresInARow (outcomes ms) + 1) RetryPolicy.lastAttempt := by
    rw [f.attempts runs, RetryPolicy.nextAttempt]
    omega
  rw [RetryPolicy.decide, f.stopping, f.keeps, next, RetryPolicy.delay?_lastAttempt]
  cases signalled ms with
  | true => simp
  | false => cases policy.delay? (failuresInARow (outcomes ms) + 1) <;> simp

/-- What a loop adds to a report is what its history calls for. -/
theorem extra_eq (f : Lived policy ms t) (turns : t.Turns n now turn extra t') :
    extra = retrials policy ms turn := by
  cases turns with
  | signal | heed | wake | part => rfl
  | retry runs awake decided =>
    obtain ⟨untold, rfl, known⟩ := (f.decide_eq_proceed_iff runs).mp decided
    simp [retrials, untold, known]
  | giveUp runs awake decided =>
    cases told : signalled ms with
    | true => simp [retrials, told]
    | false =>
      cases known : policy.delay? (failuresInARow (outcomes ms) + 1) with
      | none => simp [retrials, known]
      | some delay => exact absurd ((f.decide_eq_proceed_iff runs).mpr ⟨told, rfl, known⟩) (decided _ delay)
  | goOn runs awake holds stays =>
    rename_i o
    cases o with
    | failed e => cases holds
    | _ => rfl

section Turned

variable (f : Lived policy ms t) (turns : t.Turns n now turn extra t')
include f turns

/-- A turn ends a loop exactly if it is one of those that do. -/
theorem finished_iff {told : List Report} (quiet : turn = .signal → told = []) :
    t'.finished = true ↔ Ended policy (ms ++ [⟨now, turn, told ++ extra⟩]) := by
  have before : t.finished = false → ¬ Ended policy ms := fun runs ended => by
    rw [f.finished.mpr ended] at runs
    cases runs
  rw [ended_concat_iff]
  cases turns with
  | signal =>
    have silent : told ++ [] = [] := by rw [quiet rfl, List.append_nil]
    refine f.finished.trans ⟨fun ended => .inr ⟨ended, rfl, silent⟩, ?_⟩
    rintro (ending | ⟨ended, -⟩)
    · cases ending
    · exact ended
  | heed runs heard => exact iff_of_true rfl (.inl (.heeded (f.stopping ▸ heard)))
  | wake runs =>
    refine iff_of_false (by simp [runs]) ?_
    rintro (ending | ⟨ended, -⟩)
    · cases ending
    · exact before runs ended
  | retry runs awake decided =>
    obtain ⟨untold, -, known⟩ := (f.decide_eq_proceed_iff runs).mp decided
    refine iff_of_false (by simp [runs]) ?_
    rintro (ending | ⟨ended, -⟩)
    · cases ending with
      | overheard told => simp [untold] at told
      | unretried never => simp [never, RetryPolicy.delay?] at known
    · exact before runs ended
  | giveUp runs awake decided =>
    refine iff_of_true rfl (.inl ?_)
    cases told : signalled ms with
    | true => exact .overheard told
    | false =>
      -- Without the word to stop there is only one reason to give up.
      have never : policy = .disabled := by
        cases known : policy with
        | disabled => rfl
        | backoff initial ceiling quadratic =>
          have enabled : (policy.delay? (failuresInARow (outcomes ms) + 1)).isSome = true := by
            rw [RetryPolicy.isSome_delay?, known]
            rfl
          obtain ⟨delay, delayed⟩ := Option.isSome_iff_exists.mp enabled
          exact absurd ((f.decide_eq_proceed_iff runs).mpr ⟨told, rfl, delayed⟩) (decided _ delay)
      exact .unretried never (f.unfailed never runs)
  | part => exact iff_of_true rfl (.inl .parted)
  | goOn runs awake holds stays =>
    refine iff_of_false (by simp [runs]) ?_
    rintro (ending | ⟨ended, -⟩)
    · cases ending with
      | parted => exact stays rfl
      | overheard | unretried => cases holds
    · exact before runs ended

/-- A rest that was announced is over before the loop looks again. -/
theorem rested_of_look (later : ∀ m ∈ ms, m.time ≤ now) {o : Outcome} (looks : turn = .look o) {m : Moment}
    (past : m ∈ ms) {attempt delay : Nat} (announced : .retrying attempt delay ∈ m.reports) :
    m.time + 1000 * delay ≤ now := by
  obtain ⟨rests, -⟩ | ⟨w, passed, elapsed⟩ := f.rested m past attempt delay announced
  · cases turns with
    | signal | heed | wake => cases looks
    | retry _ awake | giveUp _ awake | part _ awake | goOn _ awake =>
      rw [awake] at rests
      cases rests
  · exact elapsed.trans (later w passed)

/-- A rest goes on until it is over. -/
theorem rested_concat {told : List Report}
    (plain : ∀ attempt delay, .retrying attempt delay ∉ told) :
    ∀ m ∈ ms ++ [⟨now, turn, told ++ extra⟩], ∀ attempt delay, .retrying attempt delay ∈ m.reports →
      (t'.resting = true ∧ m.time + 1000 * delay ≤ t'.next) ∨
        ∃ w ∈ ms ++ [⟨now, turn, told ++ extra⟩], m.time + 1000 * delay ≤ w.time := by
  intro m there attempt delay announced
  have new : ⟨now, turn, told ++ extra⟩ ∈ ms ++ [(⟨now, turn, told ++ extra⟩ : Moment)] := by simp
  rcases List.mem_append.mp there with past | present
  · -- A rest that was going on still goes on, or this turn ends it because its time has come.
    obtain ⟨rests, bound⟩ | ⟨w, passed, elapsed⟩ := f.rested m past attempt delay announced
    · cases turns with
      | signal | heed => exact .inl ⟨rests, bound⟩
      | wake _ _ elapsed => exact .inr ⟨_, new, bound.trans elapsed⟩
      | retry _ awake | giveUp _ awake | part _ awake | goOn _ awake =>
        rw [awake] at rests
        cases rests
    · exact .inr ⟨w, List.mem_append_left _ passed, elapsed⟩
  · obtain rfl := List.mem_singleton.mp present
    obtain spoken | added := List.mem_append.mp announced
    · exact absurd spoken (plain attempt delay)
    · -- Only a retry announces a rest, and with it the rest begins.
      cases turns with
      | retry =>
        cases List.mem_singleton.mp added
        exact .inl ⟨rfl, Nat.le_refl _⟩
      | _ => cases added

/-- What a turn keeps of the relation between a loop and its history. -/
theorem turned {told : List Report} (quiet : turn = .signal → told = [])
    (plain : ∀ attempt delay, .retrying attempt delay ∉ told) :
    Lived policy (ms ++ [⟨now, turn, told ++ extra⟩]) t' where
  keeps := by
    cases turns with
    | goOn =>
      dsimp only
      split <;> exact f.keeps
    | _ => exact f.keeps
  attempts := by
    cases turns with
    | signal | wake => simpa [LoopTurn.outcome?] using f.attempts
    | heed | giveUp | part => simp
    | retry runs awake decided =>
      obtain ⟨-, numbered, -⟩ := (f.decide_eq_proceed_iff runs).mp decided
      simp [LoopTurn.outcome?, failuresInARow_concat, Outcome.isWelcome, Outcome.isFailure, numbered]
    | goOn runs awake holds =>
      intro _
      rw [outcomes_concat, LoopTurn.outcome?, Option.toList_some, failuresInARow_concat, holds]
      split
      · simp
      · simpa using f.attempts runs
  stopping := by
    rw [signalled_concat, ← f.stopping]
    cases turns <;> simp
  finished := f.finished_iff turns quiet
  unfailed := by
    intro never runs o there
    rw [outcomes_concat, List.mem_append] at there
    cases turns with
    | signal | wake => exact f.unfailed never runs o (by simpa [LoopTurn.outcome?] using there)
    | heed | giveUp | part => cases runs
    | retry runs awake decided =>
      obtain ⟨-, -, known⟩ := (f.decide_eq_proceed_iff runs).mp decided
      simp [never, RetryPolicy.delay?] at known
    | goOn runs awake holds =>
      rcases there with there | there
      · exact f.unfailed never runs o there
      · obtain rfl : o = _ := by simpa [LoopTurn.outcome?] using there
        exact holds
  rested := f.rested_concat turns plain

end Turned

end Lived

namespace NetworkEngine

variable {n : Network} {s u : NetworkEngine} {ms : List Moment}

/-- The histories of the loop of an engine, and how they leave the engine. Between two turns everything else of the
engine may change. -/
inductive Watched (n : Network) (s : NetworkEngine) : List Moment → NetworkEngine → Prop
  | started : Watched n s [] s
  | turned {ms : List Moment} {u u' : NetworkEngine} {now : Nat} {turn : LoopTurn} {reports : List Report}
    (before : Watched n s ms u) (later : ∀ m ∈ ms, m.time ≤ now)
    (taken : u.turn? n now turn = some (reports, u')) : Watched n s (ms ++ [⟨now, turn, reports⟩]) u'
  | aside {ms : List Moment} {u u' : NetworkEngine} (before : Watched n s ms u) (runs : u'.task = u.task)
    (told : u'.attached = u.attached) : Watched n s ms u'

theorem Watched.turns {now : Nat} {turn : LoopTurn} {extra : List Report} {t t' : IoTask}
    (before : Watched n s ms u) (later : ∀ m ∈ ms, m.time ≤ now) (running : u.task = some t)
    (turns : t.Turns n now turn extra t') :
    Watched n s (ms ++ [⟨now, turn, u.report (turn.outcome?.bind Outcome.event?) ++ extra⟩])
      { u with task := some t' } :=
  before.turned later (turn?_of_turns running turns)

/-- A loop that was just started has no history. -/
theorem lived_startIdle (n : Network) (now : Nat) {number : Nat} (lies : s.idle = some number) :
    ∃ t, (s.startIdle n now).2.task = some t ∧ Lived s.settings.policy [] t := by
  rw [startIdle, lies]
  refine ⟨_, rfl, rfl, fun _ => rfl, rfl, ?_, nofun, nofun⟩
  simp [Ended]

/-- What a turn reports beside the outcome is no retry. -/
theorem retrying_notMem_report (e : Option EngineEvent) (attempt delay : Nat) :
    .retrying attempt delay ∉ s.report e := by
  unfold report
  split <;> simp

/-- Whether somebody is told stays the same throughout a history. -/
theorem Watched.attached (watched : Watched n s ms u) : u.attached = s.attached := by
  induction watched with
  | started => rfl
  | turned before later taken ih =>
    obtain ⟨-, -, -, -, rfl, -⟩ := turns_of_turn? taken
    exact ih
  | aside before runs told ih => exact told.trans ih

/-- What is reported depends on whether somebody is told. -/
theorem report_congr (same : u.attached = s.attached) : u.report = s.report := by
  unfold report
  rw [same]

section Begun

variable {policy : RetryPolicy} (watched : Watched n s ms u)
  (begins : ∃ t, s.task = some t ∧ Lived policy [] t)
include watched begins

/-- Throughout its history a loop stands as its history says. -/
theorem Watched.lived : ∃ t, u.task = some t ∧ Lived policy ms t := by
  induction watched with
  | started => exact begins
  | turned before later taken ih =>
    obtain ⟨t, running, f⟩ := ih
    obtain ⟨t', extra, rfl, rfl, turns⟩ := turns_of_running running taken
    refine ⟨t', rfl, ?_⟩
    apply f.turned turns
    · rintro rfl
      exact report_none
    · exact retrying_notMem_report _
  | aside before runs told ih =>
    obtain ⟨t, running, f⟩ := ih
    exact ⟨t, runs.trans running, f⟩

/-- Every turn of a history reports the outcome that it brought, and what the history calls for. -/
theorem Watched.reports_eq :
    ∀ early m late, ms = early ++ m :: late →
      m.reports = s.report (m.turn.outcome?.bind Outcome.event?) ++ retrials policy early m.turn := by
  induction watched with
  | started => simp
  | turned before later taken ih =>
    refine forall_split_concat.mpr ⟨ih, ?_⟩
    obtain ⟨t, running, f⟩ := before.lived begins
    obtain ⟨t', extra, rfl, rfl, turns⟩ := turns_of_running running taken
    rw [f.extra_eq turns, report_congr before.attached]
  | aside before runs told ih => exact ih

/-- A rest that is announced goes on for as long as was said, at least, before the loop looks again. -/
theorem Watched.rests :
    ms.Pairwise fun m m' => ∀ attempt delay o, .retrying attempt delay ∈ m.reports → m'.turn = .look o →
      m.time + 1000 * delay ≤ m'.time := by
  induction watched with
  | started => exact .nil
  | turned before later taken ih =>
    obtain ⟨t, running, f⟩ := before.lived begins
    obtain ⟨t', extra, -, -, turns⟩ := turns_of_running running taken
    refine List.pairwise_append.mpr ⟨ih, List.pairwise_singleton .., ?_⟩
    intro m past m' present attempt delay o announced looks
    obtain rfl := List.mem_singleton.mp present
    exact f.rested_of_look turns later looks past announced
  | aside before runs told ih => exact ih

end Begun

/-- The events of a report, while somebody is told. -/
theorem filterMap_report (e : Option EngineEvent) :
    (s.report e).filterMap Report.event? = if s.attached then e.toList else [] := by
  unfold report
  cases s.attached <;> cases e <;> simp [Report.event?]

theorem filterMap_retrials (policy : RetryPolicy) (early : List Moment) (turn : LoopTurn) :
    (retrials policy early turn).filterMap Report.event? = [] := by
  unfold retrials
  split
  · split
    · rfl
    · cases known : policy.delay? (failuresInARow (outcomes early) + 1) <;> simp [known, Report.event?]
  · rfl

/-- The events of a history are those of its outcomes, if its turns report what they bring. -/
theorem events_eq {policy : RetryPolicy}
    (reported : ∀ early m late, ms = early ++ m :: late →
      m.reports = s.report (m.turn.outcome?.bind Outcome.event?) ++ retrials policy early m.turn) :
    events ms = if s.attached then (outcomes ms).filterMap Outcome.event? else [] := by
  induction ms using List.reverseRecOn with
  | nil => simp [events, outcomes]
  | append_singleton ms m ih =>
    obtain ⟨old, new⟩ := forall_split_concat.mp reported
    rw [events_concat, ih old, new, List.filterMap_append, filterMap_report, filterMap_retrials, outcomes_concat]
    cases brought : m.turn.outcome? with
    | none => simp
    | some o => cases s.attached <;> cases reported : o.event? <;> simp [reported]

/-- A loop from its start to its end, with whatever happens to it. It reports the events of its outcomes, one for each
that has one, in their order. When a look fails it says, after the event of the failure, that it will try again, exactly
if it was not told to stop and its policy retries: the `k`-th failure since the broker last accepted the connection is
answered by the attempt `k`, or by the last number there is for attempts, after the delay that the policy has for `k`.
Never is anything else said about attempts, and in particular nothing after the word to stop. The loop does not look
again before such a delay is over. It ends by one of the turns that end a loop and by no other, and reports nothing
after that. -/
theorem reports_of_watched {number now : Nat} (lies : s.idle = some number)
    (watched : Watched n (s.startIdle n now).2 ms u) :
    (events ms = if s.attached then (outcomes ms).filterMap Outcome.event? else []) ∧
    (∀ early m late, ms = early ++ m :: late →
      (∀ e k, m.turn = .look (.failed e) → signalled early = false → k = failuresInARow (outcomes early) + 1 →
        m.reports = s.report (some e.event) ++
          ((s.settings.policy.delay? k).map fun delay =>
            Report.retrying (min k RetryPolicy.lastAttempt) delay).toList) ∧
      (signalled early = true ∨ (∀ e, m.turn ≠ .look (.failed e)) →
        m.reports = s.report (m.turn.outcome?.bind Outcome.event?))) ∧
    (ms.Pairwise fun m m' => ∀ attempt delay o, .retrying attempt delay ∈ m.reports → m'.turn = .look o →
      m.time + 1000 * delay ≤ m'.time) ∧
    (u.isRunning = false ↔ ∃ early m late, ms = early ++ m :: late ∧ Ending s.settings.policy early m.turn ∧
      ∀ m' ∈ late, m'.turn = .signal ∧ m'.reports = []) := by
  -- The relation of a loop and its history begins with the start and is kept by every turn.
  have begins := lived_startIdle n now lies
  have same : (s.startIdle n now).2.attached = s.attached := by rw [startIdle, lies]
  have reported := watched.reports_eq begins
  rw [report_congr same] at reported
  obtain ⟨t, running, f⟩ := watched.lived begins
  refine ⟨events_eq reported, fun early m late h => ⟨?_, ?_⟩, watched.rests begins, ?_⟩
  · rintro e k failed untold rfl
    rw [reported early m late h, failed]
    simp [retrials, untold, LoopTurn.outcome?, Outcome.event?]
  · intro unretried
    have none : retrials s.settings.policy early m.turn = [] := by
      unfold retrials
      split
      · rename_i e failed
        exact if_pos (unretried.resolve_right fun never => never e failed)
      · rfl
    rw [reported early m late h, none, List.append_nil]
  · have stopped : u.isRunning = false ↔ t.finished = true := by simp [isRunning, running]
    exact stopped.trans f.finished

/-- A loop that fails twice, is welcomed, fails again, and is told to stop during its rest: the third failure is
answered by the first attempt again. -/
theorem reports_of_watched_welcomed :
    let n : Network := ⟨fun _ => none, 50⟩
    let s : NetworkEngine := { NetworkEngine.fresh with
      settings := { NetworkSettings.start with policy := .backoff 2 100 true }
      attached := true
      idle := some 0 }
    let lost : LoopTurn := .look (.failed .transport)
    let ms : List Moment := [⟨50, lost, [.event (.disconnect 7), .retrying 1 2]⟩, ⟨2050, .wake, []⟩,
      ⟨2100, lost, [.event (.disconnect 7), .retrying 2 8]⟩, ⟨10100, .wake, []⟩,
      ⟨10150, .look (.arrived (.connAck .accepted false)), [.event (.connect 0)]⟩,
      ⟨10200, lost, [.event (.disconnect 7), .retrying 1 2]⟩, ⟨10300, .signal, []⟩, ⟨10301, .heed, []⟩]
    s.idle = some 0 ∧ ∃ u, Watched n (s.startIdle n 0).2 ms u ∧
      events ms = [.disconnect 7, .disconnect 7, .connect 0, .disconnect 7] ∧ u.isRunning = false := by
  intro n s lost ms
  have start : Watched n (s.startIdle n 0).2 [] _ := .started
  have first := @Watched.turns _ _ _ _ 50 lost _ _ _ start (by simp) rfl
    (@IoTask.Turns.retry _ _ _ _ 1 2 rfl rfl rfl)
  have rested := @Watched.turns _ _ _ _ 2050 _ _ _ _ first (by simp) rfl (.wake rfl rfl (by decide))
  have second := @Watched.turns _ _ _ _ 2100 lost _ _ _ rested (by simp) rfl
    (@IoTask.Turns.retry _ _ _ _ 2 8 rfl rfl rfl)
  have awake := @Watched.turns _ _ _ _ 10100 _ _ _ _ second (by simp) rfl (.wake rfl rfl (by decide))
  have welcomed := @Watched.turns _ _ _ _ 10150 (.look (.arrived (.connAck .accepted false))) _ _ _ awake
    (by simp) rfl (.goOn rfl rfl rfl nofun)
  have third := @Watched.turns _ _ _ _ 10200 lost _ _ _ welcomed (by simp) rfl
    (@IoTask.Turns.retry _ _ _ _ 1 2 rfl rfl rfl)
  have told := @Watched.turns _ _ _ _ 10300 _ _ _ _ third (by simp) rfl .signal
  have heeded := @Watched.turns _ _ _ _ 10301 _ _ _ _ told (by simp) rfl (.heed rfl rfl)
  obtain ⟨reported, -, -, ended⟩ := reports_of_watched rfl heeded
  exact ⟨rfl, _, heeded, reported, ended.mpr ⟨ms.dropLast, _, [], rfl, .heeded rfl, nofun⟩⟩

end NetworkEngine

end BrokerSession
