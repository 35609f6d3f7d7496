import BrokerSession.Network

/-!
# The turns of an event loop

A loop waits for two things at once: for what a look at the connection brings, and for the word to stop. It may hear of
either first, also when both are there. A loop that was told to stop may therefore deal with more outcomes before it
heeds the word, and it may come out of a rest first.

## Main definitions

* `LoopTurn` - what may happen next to a loop
* `NetworkEngine.turn?` - what a turn makes of an engine, and what it reports
* `IoTask.Turns` - the same, said of the loop alone and case by case

## Main results

* `NetworkEngine.turn?_of_turns`, `NetworkEngine.turns_of_turn?` - a turn of an engine is one of its loop
* `NetworkEngine.turn?_of_deliver` - the steps that an engine delivers are turns
-/

namespace BrokerSession

/-- Whether an outcome is a failure of the connection. -/
def Outcome.isFailure : Outcome → Bool
  | failed _ => true
  | _ => false

/-- Whether an outcome is the packet by which the broker accepts the connection. -/
def Outcome.isWelcome : Outcome → Bool
  | arrived (.connAck .accepted _) => true
  | _ => false

/-- A loop knows the acceptance of the connection by the event that it is reported as. -/
theorem IoLoop.isAcceptance_eq (o : Outcome) : isAcceptance o = o.isWelcome := by
  cases o with
  | arrived p =>
    cases p with
    | connAck answer present => cases answer <;> rfl
    | _ => rfl
  | written w =>
    cases w with
    | publish id =>
      by_cases zero : id = 0
      · subst zero
        rfl
      · have silent : (Outgoing.publish id).event? = none := if_neg zero
        change ((Outgoing.publish id).event? == some (.connect 0)) = false
        rw [silent]
        rfl
    | _ => rfl
  | failed e => rfl

/-- What may happen next to a loop. -/
inductive LoopTurn where
  /-- It is told to stop. -/
  | signal
  /-- It heeds the word to stop, and ends. -/
  | heed
  /-- Its rest before an attempt is over. -/
  | wake
  /-- A look at the connection brings an outcome. -/
  | look (o : Outcome)
  deriving DecidableEq

/-- The outcome that a turn brings. -/
def LoopTurn.outcome? : LoopTurn → Option Outcome
  | look o => some o
  | _ => none

/-- Whether a turn is one that a loop takes, and how it goes on; with what it reports beside the outcome. -/
inductive IoTask.Turns (n : Network) (now : Nat) (t : IoTask) : LoopTurn → List Report → IoTask → Prop
  /-- The word to stop may come at any time. -/
  | signal : Turns n now t .signal [] { t with stopping := true }
  | heed (runs : t.finished = false) (told : t.stopping = true) :
    Turns n now t .heed [] { t with finished := true }
  | wake (runs : t.finished = false) (rests : t.resting = true) (elapsed : t.next ≤ now) :
    Turns n now t .wake [] { t with resting := false, next := now + n.lookMillis }
  /-- After a failure it rests and tries again. -/
  | retry {e : LinkError} {attempt delay : Nat} (runs : t.finished = false) (awake : t.resting = false)
    (decided : t.loop.policy.decide t.loop.attempts t.stopping = .proceed attempt delay) :
    Turns n now t (.look (.failed e)) [.retrying attempt delay]
      { t with loop := { t.loop with attempts := attempt }, next := now + 1000 * delay, resting := true }
  /-- After a failure it gives up. -/
  | giveUp {e : LinkError} (runs : t.finished = false) (awake : t.resting = false)
    (decided : ∀ attempt delay, t.loop.policy.decide t.loop.attempts t.stopping ≠ .proceed attempt delay) :
    Turns n now t (.look (.failed e)) [] { t with finished := true }
  /-- It has written what ends the connection. -/
  | part (runs : t.finished = false) (awake : t.resting = false) :
    Turns n now t (.look (.written .disconnect)) [] { t with finished := true }
  | goOn {o : Outcome} (runs : t.finished = false) (awake : t.resting = false)
    (holds : o.isFailure = false) (stays : o ≠ .written .disconnect) :
    Turns n now t (.look o) []
      { t with
        loop := if o.isWelcome then { t.loop with attempts := 0 } else t.loop
        next := now + n.lookMillis }

/-- A loop that runs and does not rest takes whatever a look brings. -/
theorem IoTask.exists_turns (n : Network) (now : Nat) {t : IoTask} (o : Outcome) (runs : t.finished = false)
    (awake : t.resting = false) : ∃ extra t', t.Turns n now (.look o) extra t' := by
  cases o with
  | failed e =>
    cases decided : t.loop.policy.decide t.loop.attempts t.stopping with
    | proceed attempt delay => exact ⟨_, _, .retry runs awake decided⟩
    | shutdownRequested | retryDisabled =>
      refine ⟨_, _, .giveUp runs awake ?_⟩
      intro attempt delay h
      rw [decided] at h
      cases h
  | arrived p => exact ⟨_, _, .goOn runs awake rfl nofun⟩
  | written w =>
    by_cases parts : w = .disconnect
    · subst parts
      exact ⟨_, _, .part runs awake⟩
    · exact ⟨_, _, .goOn runs awake rfl fun h => parts (Outcome.written.inj h)⟩

namespace NetworkEngine

variable {n : Network} {s u : NetworkEngine} {now : Nat} {turn : LoopTurn} {reports : List Report}

/-- What a turn at a time makes of an engine, and what it reports; `none` when the loop takes no such turn. -/
def turn? (n : Network) (s : NetworkEngine) (now : Nat) (turn : LoopTurn) :
    Option (List Report × NetworkEngine) :=
  match s.task with
  | none => none
  | some t =>
    match turn with
    | .signal => some ([], { s with task := some { t with stopping := true } })
    | .heed =>
      if !t.finished && t.stopping then some ([], { s with task := some { t with finished := true } })
      else none
    | .wake =>
      if !t.finished && t.resting && t.next ≤ now then
        some ([], { s with task := some { t with resting := false, next := now + n.lookMillis } })
      else none
    | .look o => if t.finished || t.resting then none else some (s.look n now t o)

@[simp] theorem report_none : s.report none = [] := by
  unfold report
  split <;> rfl

/-- Every turn that a loop takes is a turn of its engine. -/
theorem turn?_of_turns {t t' : IoTask} {extra : List Report} (running : s.task = some t)
    (turns : t.Turns n now turn extra t') :
    s.turn? n now turn =
      some (s.report (turn.outcome?.bind Outcome.event?) ++ extra, { s with task := some t' }) := by
  cases turns with
  | signal => simp [turn?, running, LoopTurn.outcome?]
  | heed runs told => simp [turn?, running, LoopTurn.outcome?, runs, told]
  | wake runs rests elapsed => simp [turn?, running, LoopTurn.outcome?, runs, rests, elapsed]
  | retry runs awake decided =>
    simp [turn?, running, LoopTurn.outcome?, runs, awake, look, IoLoop.react, IoLoop.course, decided]
  | giveUp runs awake decided =>
    cases given : t.loop.policy.decide t.loop.attempts t.stopping with
    | proceed attempt delay => exact absurd given (decided attempt delay)
    | shutdownRequested | retryDisabled =>
      simp [turn?, running, LoopTurn.outcome?, runs, awake, look, IoLoop.react, IoLoop.course, given]
  | part runs awake =>
    simp [turn?, running, LoopTurn.outcome?, runs, awake, look, IoLoop.react, IoLoop.course]
  | goOn runs awake holds stays =>
    rename_i o
    cases o with
    | failed e => cases holds
    | arrived p =>
      simp [turn?, running, LoopTurn.outcome?, runs, awake, look, IoLoop.react, IoLoop.course,
        IoLoop.isAcceptance_eq]
    | written w =>
      simp [turn?, running, LoopTurn.outcome?, runs, awake, look, IoLoop.react, IoLoop.course,
        IoLoop.isAcceptance_eq]

/-- A turn concerns the loop alone. It reports the outcome that it brings, if it brings one, and what the loop adds. -/
theorem turns_of_turn? (taken : s.turn? n now turn = some (reports, u)) :
    ∃ t t' extra, s.task = some t ∧ u = { s with task := some t' } ∧
      reports = s.report (turn.outcome?.bind Outcome.event?) ++ extra ∧ t.Turns n now turn extra t' := by
  have taken' := taken
  unfold turn? at taken
  split at taken
  · cases taken
  · rename_i t running
    -- Which turn of the loop it is decides what it makes of the engine, so nothing but that is to be found out.
    have turns : ∃ extra t', t.Turns n now turn extra t' := by
      cases turn with
      | signal => exact ⟨_, _, .signal⟩
      | heed =>
        simp only [Option.ite_none_right_eq_some, Bool.and_eq_true, Bool.not_eq_true'] at taken
        obtain ⟨⟨runs, told⟩, -⟩ := taken
        exact ⟨_, _, .heed runs told⟩
      | wake =>
        simp only [Option.ite_none_right_eq_some, Bool.and_eq_true, Bool.not_eq_true', decide_eq_true_eq] at taken
        obtain ⟨⟨⟨runs, rests⟩, elapsed⟩, -⟩ := taken
        exact ⟨_, _, .wake runs rests elapsed⟩
      | look o =>
        simp only [Option.ite_none_left_eq_some, Bool.or_eq_true, not_or, Bool.not_eq_true] at taken
        obtain ⟨⟨runs, awake⟩, -⟩ := taken
        exact IoTask.exists_turns n now o runs awake
    obtain ⟨extra, t', turns⟩ := turns
    rw [turn?_of_turns running turns] at taken'
    cases taken'
    exact ⟨t, t', extra, running, rfl, rfl, turns⟩

/-- The same for an engine whose loop is known. -/
theorem turns_of_running {t : IoTask} (running : s.task = some t)
    (taken : s.turn? n now turn = some (reports, u)) :
    ∃ t' extra, u = { s with task := some t' } ∧
      reports = s.report (turn.outcome?.bind Outcome.event?) ++ extra ∧ t.Turns n now turn extra t' := by
  obtain ⟨t₀, t', extra, runs, rest⟩ := turns_of_turn? taken
  obtain rfl : t = t₀ := Option.some.inj (running.symm.trans runs)
  exact ⟨t', extra, rest⟩

/-- The steps that an engine delivers are turns of its loop. -/
theorem turn?_of_deliver (delivered : s.deliver n now = some (reports, u)) :
    ∃ turn, s.turn? n now turn = some (reports, u) := by
  unfold deliver at delivered
  split at delivered
  · cases delivered
  · rename_i t running
    simp only [Option.ite_none_left_eq_some, Bool.not_eq_true] at delivered
    obtain ⟨runs, delivered⟩ := delivered
    split at delivered
    · rename_i told
      exact ⟨.heed, by simpa [turn?, running, runs, told] using delivered⟩
    · split at delivered
      · exact ⟨.signal, by simpa [turn?, running] using delivered⟩
      · simp only [Option.ite_none_left_eq_some, Nat.not_lt] at delivered
        obtain ⟨elapsed, delivered⟩ := delivered
        split at delivered
        · rename_i rests
          exact ⟨.wake, by simpa [turn?, running, runs, rests, elapsed] using delivered⟩
        · rename_i awake
          obtain ⟨o, -, looked⟩ := Option.map_eq_some_iff.mp delivered
          exact ⟨.look o, by simp [turn?, running, runs, awake, looked]⟩

end NetworkEngine

end BrokerSession
