/-!
# Requirements in an order

What a check asks for is a list of requirements, each with the fault that is found where it does not hold. Every one of
them is a statement of its own, and the order among them decides only which fault is reported when more than one of
them fails: that of the first.

A check is compared with its list through `Requirement.firstFault?`, which can be taken apart wherever the list can;
what the fault says about the list is told once, for all checks.

## Main definitions

* `Requirement` - what has to hold, and the fault where it does not
* `Requirement.FirstFault` - the fault of the first requirement that does not hold
* `Requirement.firstFault?` - the same, as a search through the list

## Main results

* `firstFault?_eq_none_iff` - no fault is found exactly if every requirement holds
* `firstFault?_eq_some_iff` - a fault that is found is the one of the first requirement that does not hold
-/

namespace BrokerSession

/-- Something that has to hold, with the fault that is found where it does not. -/
structure Requirement (ε : Type) where
  holds : Prop
  fault : ε
  [decides : Decidable holds]

namespace Requirement

variable {ε δ : Type} {r : Requirement ε} {rs qs : List (Requirement ε)} {e : ε}

instance (r : Requirement ε) : Decidable r.holds := r.decides

/-- The same requirement, with its fault in other words. -/
def map (f : ε → δ) (r : Requirement ε) : Requirement δ := ⟨r.holds, f r.fault⟩

/-- Among some requirements one does not hold, all that come before it do, and this is its fault. -/
def FirstFault (rs : List (Requirement ε)) (e : ε) : Prop :=
  ∃ before r after, rs = before ++ r :: after ∧ (∀ q ∈ before, q.holds) ∧ ¬ r.holds ∧ r.fault = e

/-- The fault of a requirement, if it does not hold. -/
def fault? (r : Requirement ε) : Option ε := if r.holds then none else some r.fault

/-- The first fault that is found when requirements are gone through in their order. -/
def firstFault? (rs : List (Requirement ε)) : Option ε := rs.findSome? fault?

theorem fault?_eq_none_iff : r.fault? = none ↔ r.holds := by
  simp [fault?]

theorem fault?_eq_some_iff : r.fault? = some e ↔ ¬ r.holds ∧ r.fault = e := by
  simp [fault?]

/-- No fault is found exactly if every requirement holds. -/
theorem firstFault?_eq_none_iff : firstFault? rs = none ↔ ∀ r ∈ rs, r.holds := by
  simp only [firstFault?, List.findSome?_eq_none_iff, fault?_eq_none_iff]

/-- A fault that is found is the one of the first requirement that does not hold. -/
theorem firstFault?_eq_some_iff : firstFault? rs = some e ↔ FirstFault rs e := by
  unfold firstFault? FirstFault
  rw [List.findSome?_eq_some_iff]
  simp only [fault?_eq_some_iff, fault?_eq_none_iff]
  constructor
  · rintro ⟨before, r, after, whole, ⟨fails, fault⟩, hold⟩
    exact ⟨before, r, after, whole, hold, fails, fault⟩
  · rintro ⟨before, r, after, whole, hold, fails, fault⟩
    exact ⟨before, r, after, whole, ⟨fails, fault⟩, hold⟩

/-! ## Lists that are put together -/

@[simp] theorem firstFault?_nil : firstFault? ([] : List (Requirement ε)) = none := rfl

theorem firstFault?_cons : firstFault? (r :: rs) = if r.holds then firstFault? rs else some r.fault := by
  by_cases holds : r.holds <;> simp [firstFault?, fault?, holds]

theorem firstFault?_append : firstFault? (rs ++ qs) = (firstFault? rs).or (firstFault? qs) :=
  List.findSome?_append

theorem firstFault?_map (f : ε → δ) : firstFault? (rs.map (map f)) = (firstFault? rs).map f := by
  induction rs with
  | nil => rfl
  | cons r rs ih =>
    rw [List.map_cons, firstFault?_cons, firstFault?_cons, ih]
    by_cases holds : r.holds <;> simp [map, holds]

/-- What is asked only where there is something to ask it of. -/
theorem firstFault?_elim {α : Type} (o : Option α) {check : α → Option ε} {asked : α → List (Requirement ε)}
    (each : ∀ a, check a = firstFault? (asked a)) : o.bind check = firstFault? (o.elim [] asked) := by
  cases o with
  | none => rfl
  | some a => exact each a

/-- Lists of requirements that stand one behind the other are gone through like rules that stand so. -/
theorem firstFault?_flatten {α : Type} {rules : List (α → Option ε)} {a : α} {groups : List (List (Requirement ε))}
    (each : rules.map (· a) = groups.map firstFault?) : firstFault? groups.flatten = rules.findSome? (· a) := by
  induction groups generalizing rules with
  | nil =>
    rw [List.map_nil, List.map_eq_nil_iff] at each
    rw [each]
    rfl
  | cons group groups ih =>
    obtain ⟨rule, rules, rfl, first, others⟩ := List.map_eq_cons_iff.mp each
    rw [List.flatten_cons, firstFault?_append, ih others, List.findSome?_cons, first]
    cases firstFault? group <;> rfl

end Requirement

end BrokerSession
