import BrokerSession.Proofs.Validation
import Mathlib.Algebra.Group.Nat.Defs
import Mathlib.Order.Monotone.Basic

/-!
# How long a lost connection waits for its next attempt

The delay before an attempt is the initial delay times the number of the attempt, or times its square, up to the
ceiling. Products are computed in 64 bits and the count of attempts in 32, and either stops at the largest number that
it can hold; a usable policy shows neither. Its delays are those of unbounded numbers, so they begin at the initial
delay, never fall, and stay at the ceiling once they have reached it.

A loop that loses its connection again and again asks the policy again and again, each time with the number that the
last answer gave. What it is told is a sequence of its own, and the same formula describes it.

## Main definitions

* `RetryPolicy.wait` - the delay before an attempt, over unbounded numbers
* `RetryPolicy.decisions` - what is decided after each of several losses in a row

## Main results

* `RetryPolicy.delay?_of_usable` - the delay of a usable policy is that of unbounded numbers
* `RetryPolicy.decisions_of_usable` - under a usable policy no loss is the last one
* `RetryPolicy.delays_of_usable` - both, with the order of the delays
-/

namespace BrokerSession.RetryPolicy

variable {initial ceiling : UInt32} {quadratic : Bool} {m n : Nat}

/-! ## Delays over unbounded numbers -/

/-- The delay before an attempt, over unbounded numbers: the initial delay times the number of the attempt, or times its
square, but no more than the ceiling. -/
def wait (initial ceiling : Nat) (quadratic : Bool) (attempt : Nat) : Nat :=
  min (initial * max attempt 1 ^ (if quadratic then 2 else 1)) ceiling

theorem growth_eq (quadratic : Bool) (attempt : Nat) :
    growth quadratic attempt = max attempt 1 ^ (if quadratic then 2 else 1) := by
  cases quadratic with
  | false => simp [growth]
  | true => simp [growth, Nat.pow_two]

theorem one_le_growth (quadratic : Bool) (attempt : Nat) : 1 ≤ growth quadratic attempt := by
  rw [growth_eq]
  exact Nat.one_le_pow _ _ (Nat.le_max_right attempt 1)

theorem growth_mono (quadratic : Bool) (later : m ≤ n) : growth quadratic m ≤ growth quadratic n := by
  rw [growth_eq, growth_eq]
  exact Nat.pow_le_pow_left (by omega) _

theorem growth_linear_le (attempt : Nat) : growth false attempt ≤ growth true attempt := by
  simp only [growth]
  exact Nat.le_mul_self (max attempt 1)

theorem wait_eq (initial ceiling : Nat) (quadratic : Bool) (attempt : Nat) :
    wait initial ceiling quadratic attempt = min (initial * growth quadratic attempt) ceiling := by
  rw [wait, growth_eq]

theorem wait_le (initial ceiling : Nat) (quadratic : Bool) (attempt : Nat) :
    wait initial ceiling quadratic attempt ≤ ceiling :=
  Nat.min_le_right _ _

/-- A ceiling that is not below the initial delay does not cut it off. -/
theorem le_wait {initial ceiling : Nat} (ordered : initial ≤ ceiling) (quadratic : Bool) (attempt : Nat) :
    initial ≤ wait initial ceiling quadratic attempt := by
  rw [wait_eq]
  have grown : initial * 1 ≤ initial * growth quadratic attempt :=
    Nat.mul_le_mul_left initial (one_le_growth quadratic attempt)
  exact Nat.le_min.mpr ⟨by omega, ordered⟩

theorem wait_mono (initial ceiling : Nat) (quadratic : Bool) (later : m ≤ n) :
    wait initial ceiling quadratic m ≤ wait initial ceiling quadratic n := by
  rw [wait_eq, wait_eq]
  have grown : initial * growth quadratic m ≤ initial * growth quadratic n :=
    Nat.mul_le_mul_left initial (growth_mono quadratic later)
  omega

theorem wait_linear_le (initial ceiling attempt : Nat) :
    wait initial ceiling false attempt ≤ wait initial ceiling true attempt := by
  rw [wait_eq, wait_eq]
  have grown : initial * growth false attempt ≤ initial * growth true attempt :=
    Nat.mul_le_mul_left initial (growth_linear_le attempt)
  omega

/-! ## Delays of a usable policy -/

/-- A policy that retries is usable if its initial delay is positive and not above the ceiling. -/
theorem fault?_backoff_eq_none_iff :
    (backoff initial ceiling quadratic).fault? = none ↔ 1 ≤ initial.toNat ∧ initial.toNat ≤ ceiling.toNat := by
  rw [fault?_eq, Requirement.firstFault?_eq_none_iff, requirements_hold_iff]
  simp

/-- The delay of a usable policy is that of unbounded numbers. -/
theorem delay?_of_usable (usable : (backoff initial ceiling quadratic).fault? = none) (attempt : Nat) :
    (backoff initial ceiling quadratic).delay? attempt =
      some (wait initial.toNat ceiling.toNat quadratic attempt) := by
  obtain ⟨-, ordered⟩ := fault?_backoff_eq_none_iff.mp usable
  by_cases grows : initial < ceiling
  · rw [delay?_backoff quadratic attempt grows, wait_eq]
  · -- The delays have no room to grow in: they begin at the ceiling, where the formula keeps them.
    have high : ceiling.toNat ≤ initial.toNat := Nat.le_of_not_lt grows
    have least := le_wait ordered quadratic attempt
    have most := wait_le initial.toNat ceiling.toNat quadratic attempt
    simp only [delay?, grows, if_false, Option.some.injEq]
    omega

/-! ## One loss after the other -/

/-- What is decided after each of several losses in a row, the first of which follows no failed attempt at all. A
decision to try again counts the attempt that the next loss follows; any other decision is the last one. -/
def decisions (policy : RetryPolicy) : Nat → RetryDecision
  | 0 => policy.decide 0 false
  | k + 1 =>
    match decisions policy k with
    | .proceed attempt _ => policy.decide attempt false
    | given => given

theorem decide_of_usable (usable : (backoff initial ceiling quadratic).fault? = none) (attempts : Nat) :
    (backoff initial ceiling quadratic).decide attempts false =
      .proceed (nextAttempt attempts) (wait initial.toNat ceiling.toNat quadratic (nextAttempt attempts)) := by
  simp [decide, delay?_of_usable usable]

theorem nextAttempt_min (k : Nat) : nextAttempt (min k lastAttempt) = min (k + 1) lastAttempt := by
  unfold nextAttempt
  omega

/-- Under a usable policy no loss is the last one: the attempts are numbered as they come, up to the largest number of
32 bits, which all later ones keep. -/
theorem decisions_of_usable (usable : (backoff initial ceiling quadratic).fault? = none) (k : Nat) :
    (backoff initial ceiling quadratic).decisions k =
      .proceed (min (k + 1) lastAttempt)
        (wait initial.toNat ceiling.toNat quadratic (min (k + 1) lastAttempt)) := by
  induction k with
  | zero => exact decide_of_usable usable 0
  | succ k ih =>
    simp only [decisions, ih]
    rw [decide_of_usable usable, nextAttempt_min]

/-- The delays of a usable policy: those of unbounded numbers, within the bounds of the policy and in the order of the
attempts, of which there is always another one. -/
theorem delays_of_usable (usable : (backoff initial ceiling quadratic).fault? = none) :
    (∀ attempt, (backoff initial ceiling quadratic).delay? attempt =
        some (min (initial.toNat * max attempt 1 ^ (if quadratic then 2 else 1)) ceiling.toNat)) ∧
      (∀ attempt delay, (backoff initial ceiling quadratic).delay? attempt = some delay →
        initial.toNat ≤ delay ∧ delay ≤ ceiling.toNat) ∧
      (∀ m n delay later, m ≤ n → (backoff initial ceiling quadratic).delay? m = some delay →
        (backoff initial ceiling quadratic).delay? n = some later → delay ≤ later) ∧
      (∀ attempt linear square, (backoff initial ceiling false).delay? attempt = some linear →
        (backoff initial ceiling true).delay? attempt = some square → linear ≤ square) ∧
      ∃ delays : Nat → Nat, Monotone delays ∧
        ∀ k, (backoff initial ceiling quadratic).decisions k = .proceed (min (k + 1) (2 ^ 32 - 1)) (delays k) ∧
          (backoff initial ceiling quadratic).delay? (min (k + 1) (2 ^ 32 - 1)) = some (delays k) := by
  have either (q : Bool) : (backoff initial ceiling q).fault? = none := usable
  obtain ⟨-, ordered⟩ := fault?_backoff_eq_none_iff.mp usable
  refine ⟨?formula, ?bounds, ?order, ?square, ?sequence⟩
  case formula => exact delay?_of_usable usable
  case bounds =>
    intro attempt delay given
    rw [delay?_of_usable usable, Option.some.injEq] at given
    subst given
    exact ⟨le_wait ordered quadratic attempt, wait_le _ _ quadratic attempt⟩
  case order =>
    intro m n delay later ordered given given'
    rw [delay?_of_usable usable, Option.some.injEq] at given given'
    subst given given'
    exact wait_mono _ _ quadratic ordered
  case square =>
    intro attempt linear square given given'
    rw [delay?_of_usable (either _), Option.some.injEq] at given given'
    subst given given'
    exact wait_linear_le _ _ attempt
  case sequence =>
    refine ⟨fun k => wait initial.toNat ceiling.toNat quadratic (min (k + 1) lastAttempt), ?_, fun k => ⟨?_, ?_⟩⟩
    · intro j k earlier
      exact wait_mono _ _ quadratic (by omega)
    · exact decisions_of_usable usable k
    · exact delay?_of_usable usable _

/-- Three times the square of the last attempt that is counted does not fit into 64 bits, and the delay is what it would
be if it did: the ceiling. -/
theorem delays_of_usable_last :
    (backoff 3 4294967295 true).fault? = none ∧
      (backoff 3 4294967295 true).delay? 4294967295 = some (min (3 * max 4294967295 1 ^ 2) 4294967295) := by
  have usable : (backoff 3 4294967295 true).fault? = none := by decide
  exact ⟨usable, (delays_of_usable usable).1 4294967295⟩

/-- The delays grow with the square until they meet the ceiling. -/
example : (List.range 4).map (backoff 2 20 true).decisions =
    [.proceed 1 2, .proceed 2 8, .proceed 3 18, .proceed 4 20] := by decide

end BrokerSession.RetryPolicy
