/-!
# Retrying a lost connection

A policy says whether a lost connection is tried again, and how long to wait before each attempt. The wait
grows with the attempt number, either in proportion to it or to its square, up to a ceiling.

## Main definitions

* `RetryPolicy` - never retry, or retry with a growing delay
* `RetryPolicy.delay?` - the seconds to wait before an attempt
* `RetryPolicy.decide` - what to do after a loss
* `RetryPolicy.fault?` - why a policy is unusable

## Main results

* `RetryPolicy.delay?_backoff` - the delay over unbounded numbers: the 64-bit products never lose anything
-/

namespace BrokerSession

/-- Whether and how a lost connection is tried again. -/
inductive RetryPolicy where
  /-- Never on its own. -/
  | disabled
  /-- After a delay that grows with the attempt; both delays are in seconds. -/
  | backoff (initial ceiling : UInt32) (quadratic : Bool)
  deriving DecidableEq, Repr

namespace RetryPolicy

/-- Without a word in the configuration: one second at first, half an hour at most, growing with the square. -/
instance : Inhabited RetryPolicy := ⟨.backoff 1 1800 true⟩

/-- The largest number of 64 bits. -/
def wordMax : Nat := UInt64.size - 1

/-- A product that stays at the largest 64-bit number once it gets there. -/
def satMul (a b : Nat) : Nat := min (a * b) wordMax

/-- Whether the policy retries at all. -/
def isEnabled : RetryPolicy → Bool
  | disabled => false
  | backoff .. => true

/-- The seconds to wait before an attempt; attempts are counted from one. A ceiling that is not above the
initial delay leaves the initial delay as it is. -/
def delay? (policy : RetryPolicy) (attempt : Nat) : Option Nat :=
  match policy with
  | disabled => none
  | backoff initial ceiling quadratic =>
    let n := max attempt 1
    if initial < ceiling then
      let factor := if quadratic then satMul n n else n
      some (min (satMul initial.toNat factor) ceiling.toNat)
    else
      some initial.toNat

/-- The last attempt number that is counted; later ones keep it. -/
def lastAttempt : Nat := UInt32.size - 1

/-- The attempt that follows a number of failed ones. -/
def nextAttempt (attempts : Nat) : Nat := min (attempts + 1) lastAttempt

end RetryPolicy

/-- What to do after a connection was lost. -/
inductive RetryDecision where
  /-- Wait for `delay` seconds, then try again. -/
  | proceed (attempt delay : Nat)
  /-- Give up: the session is being torn down. -/
  | shutdownRequested
  /-- Give up: the policy never retries. -/
  | retryDisabled
  deriving DecidableEq, Repr

namespace RetryPolicy

/-- What to do after a loss that follows `attempts` failed attempts. A shutdown wins over the policy. -/
def decide (policy : RetryPolicy) (attempts : Nat) (shutdown : Bool) : RetryDecision :=
  if shutdown then .shutdownRequested
  else
    match policy.delay? (nextAttempt attempts) with
    | some delay => .proceed (nextAttempt attempts) delay
    | none => .retryDisabled

/-- Why a policy is unusable. -/
inductive Fault where
  | zeroInitialDelay
  | ceilingBelowInitial (ceiling initial : UInt32)
  deriving DecidableEq, Repr

/-- The text of a fault. -/
def Fault.message : Fault → String
  | zeroInitialDelay => "reconnect initial_delay_secs must be greater than 0"
  | ceilingBelowInitial ceiling initial =>
    "reconnect max_delay_secs (" ++ toString ceiling.toNat ++
      ") must not be below initial_delay_secs (" ++ toString initial.toNat ++ ")"

/-- The first fault of a policy. -/
def fault? : RetryPolicy → Option Fault
  | disabled => none
  | backoff initial ceiling _ =>
    if initial = 0 then some .zeroInitialDelay
    else if ceiling < initial then some (.ceilingBelowInitial ceiling initial)
    else none

/-- A delay exists exactly under a policy that retries. -/
@[simp] theorem isSome_delay? (policy : RetryPolicy) (attempt : Nat) :
    (policy.delay? attempt).isSome = policy.isEnabled := by
  cases policy with
  | disabled => rfl
  | backoff => simp only [delay?, isEnabled]; split <;> rfl

/-- The factor by which the initial delay grows, over unbounded numbers. -/
def growth (quadratic : Bool) (attempt : Nat) : Nat :=
  if quadratic then max attempt 1 * max attempt 1 else max attempt 1

theorem min_satMul {a b bound : Nat} (h : bound ≤ wordMax) :
    min (satMul a b) bound = min (a * b) bound := by
  unfold satMul; omega

/-- A number of 32 bits is one of 64 bits. -/
theorem toNat_le_wordMax (n : UInt32) : n.toNat ≤ wordMax := by
  have := n.toNat_lt_size
  simp only [wordMax, UInt64.size, UInt32.size] at *
  omega

/-- The delay over unbounded numbers: the products that stay within 64 bits lose nothing, because the
ceiling is far below the place where they would. -/
theorem delay?_backoff {initial ceiling : UInt32} (quadratic : Bool) (attempt : Nat)
    (h : initial < ceiling) :
    (backoff initial ceiling quadratic).delay? attempt =
      some (min (initial.toNat * growth quadratic attempt) ceiling.toNat) := by
  have hw : ceiling.toNat ≤ wordMax := toNat_le_wordMax ceiling
  have hi : initial.toNat < ceiling.toNat := h
  cases quadratic with
  | false => simp [delay?, h, growth, min_satMul hw]
  | true =>
    simp only [delay?, h, growth, if_true]
    rw [min_satMul hw]
    congr 1
    by_cases hsat : max attempt 1 * max attempt 1 ≤ wordMax
    · rw [satMul, Nat.min_eq_left hsat]
    · have hbig : wordMax ≤ max attempt 1 * max attempt 1 := by omega
      rw [satMul, Nat.min_eq_right hbig]
      rcases Nat.eq_zero_or_pos initial.toNat with h0 | h0
      · simp [h0]
      · have hone : wordMax ≤ initial.toNat * wordMax := Nat.le_mul_of_pos_left _ h0
        have hmono : initial.toNat * wordMax ≤ initial.toNat * (max attempt 1 * max attempt 1) :=
          Nat.mul_le_mul_left _ hbig
        omega

end RetryPolicy

end BrokerSession
