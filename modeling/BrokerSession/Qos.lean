/-!
# Delivery guarantees

A message travels with one of three guarantees. Engines report the guarantee as an integer level, and
configurations spell it as a word.

## Main definitions

* `Qos` - the three guarantees
* `Qos.level`, `Qos.ofLevel?` - the integer level of a guarantee, and the guarantee of a level
* `Qos.word` - the spelling used in configurations
* `Qos.weaker` - the weaker of two guarantees
-/

namespace BrokerSession

/-- The guarantee a message travels with. -/
inductive Qos where
  /-- Sent once and forgotten. -/
  | atMostOnce
  /-- Sent until it is acknowledged. -/
  | atLeastOnce
  /-- Delivered exactly once, by a two-step handshake. -/
  | exactlyOnce
  deriving DecidableEq, Repr, Inhabited

namespace Qos

/-- The level by which engines and brokers refer to a guarantee. -/
def level : Qos → Nat
  | atMostOnce => 0
  | atLeastOnce => 1
  | exactlyOnce => 2

/-- The guarantee of a level; a level outside `0..2` names none. -/
def ofLevel? (raw : Int) : Option Qos :=
  if raw = 0 then some atMostOnce
  else if raw = 1 then some atLeastOnce
  else if raw = 2 then some exactlyOnce
  else none

/-- The guarantee of a single byte; a byte that names none is handed back. -/
def ofByte (raw : UInt8) : Except UInt8 Qos :=
  match ofLevel? raw.toNat with
  | some qos => .ok qos
  | none => .error raw

/-- The word for a guarantee in a configuration. -/
def word : Qos → String
  | atMostOnce => "at_most_once"
  | atLeastOnce => "at_least_once"
  | exactlyOnce => "exactly_once"

/-- All guarantees, weakest first. -/
def all : List Qos := [atMostOnce, atLeastOnce, exactlyOnce]

/-- The guarantee a word stands for. -/
def ofWord? (text : String) : Option Qos := all.find? (·.word == text)

/-- The weaker of two guarantees: what reaches a subscriber is bounded by both ends. -/
def weaker (a b : Qos) : Qos := if a.level ≤ b.level then a else b

/-- The stronger of two guarantees; of two equal ones the second. -/
def stronger (a b : Qos) : Qos := if a.level ≤ b.level then b else a

@[simp] theorem ofLevel?_level (q : Qos) : ofLevel? q.level = some q := by
  cases q <;> rfl

theorem ofLevel?_eq_some_iff {raw : Int} {q : Qos} : ofLevel? raw = some q ↔ raw = q.level := by
  unfold ofLevel?
  cases q <;> repeat' split <;> simp_all [level]

@[simp] theorem ofWord?_word (q : Qos) : ofWord? q.word = some q := by
  cases q <;> decide

end Qos

end BrokerSession
