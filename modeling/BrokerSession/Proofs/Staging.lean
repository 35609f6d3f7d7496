import BrokerSession.Setting

/-!
# Options that were all accepted

An engine is given its options one after another until it refuses one. When none is refused, each of them was
accepted in the state that the ones before it left behind.

## Main results

* `applyAll_cons_eq_ok_iff` - the first option is accepted, and the others are in the state after it
* `applyAll_append_eq_ok_iff` - the same for more than one option
* `stage_eq_ok_iff` - a configuration is staged when it is usable and all its options are accepted
* `applyAll_keeps`, `stage_keeps` - what every option leaves alone is left alone by all of them
-/

namespace BrokerSession

namespace Setting

variable {σ : Type} {set : σ → Setting → Status × σ} {env : Environment} {s t : σ}

/-- All options are accepted when the first one is, and the others are in the state after it. -/
theorem applyAll_cons_eq_ok_iff {x : Setting} {xs : List Setting} :
    applyAll set env (x :: xs) s = (.ok (), t) ↔
      ∃ y u, x.resolve env = .ok y ∧ set s y = (.success, u) ∧ applyAll set env xs u = (.ok (), t) := by
  rw [applyAll]
  cases resolved : x.resolve env with
  | error e => simp
  | ok y =>
    rcases taken : set s y with ⟨status, u⟩
    by_cases accepted : status = .success <;> simp [taken, accepted]

theorem applyAll_append_eq_ok_iff {xs ys : List Setting} :
    applyAll set env (xs ++ ys) s = (.ok (), t) ↔
      ∃ u, applyAll set env xs s = (.ok (), u) ∧ applyAll set env ys u = (.ok (), t) := by
  induction xs generalizing s with
  | nil => simp [applyAll]
  | cons x xs ih =>
    rw [List.cons_append, applyAll_cons_eq_ok_iff]
    constructor
    · rintro ⟨y, v, resolved, taken, rest⟩
      obtain ⟨u, first, last⟩ := ih.mp rest
      exact ⟨u, applyAll_cons_eq_ok_iff.mpr ⟨y, v, resolved, taken, first⟩, last⟩
    · rintro ⟨u, first, last⟩
      obtain ⟨y, v, resolved, taken, rest⟩ := applyAll_cons_eq_ok_iff.mp first
      exact ⟨y, v, resolved, taken, ih.mpr ⟨u, rest, last⟩⟩

theorem applyAll_none_eq_ok_iff :
    applyAll set env (none : Option Setting).toList s = (.ok (), t) ↔ t = s := by
  simp [applyAll, eq_comm]

theorem applyAll_some_eq_ok_iff {x : Setting} :
    applyAll set env (some x).toList s = (.ok (), t) ↔
      ∃ y, x.resolve env = .ok y ∧ set s y = (.success, t) := by
  rw [Option.toList_some, applyAll_cons_eq_ok_iff]
  simp [applyAll]

/-- What every option leaves alone is left alone by all of them. -/
theorem applyAll_keeps {P : σ → Prop} (keeps : ∀ u x, P u → P (set u x).2) (env : Environment)
    (xs : List Setting) (start : P s) : P (applyAll set env xs s).2 := by
  induction xs generalizing s with
  | nil => exact start
  | cons x xs ih =>
    rw [applyAll]
    cases x.resolve env with
    | error e => exact start
    | ok y =>
      dsimp only
      split
      · exact ih (keeps s y start)
      · exact keeps s y start

end Setting

/-- A configuration is staged when it is usable and all its options are accepted. -/
theorem Config.stage_eq_ok_iff {σ : Type} {set : σ → Setting → Status × σ} {fs : Files}
    {env : Environment} {c : Config} {clientId : String} {s t : σ} :
    c.stage set fs env clientId s = (.ok (), t) ↔
      c.Usable fs ∧ Setting.applyAll set env (c.settings clientId) s = (.ok (), t) := by
  unfold stage Usable
  cases c.fault? fs <;> simp

theorem Config.stage_keeps {σ : Type} {set : σ → Setting → Status × σ} {fs : Files} {env : Environment} {c : Config}
    {clientId : String} {s t : σ} {P : σ → Prop} (keeps : ∀ u x, P u → P (set u x).2)
    (staged : c.stage set fs env clientId s = (.ok (), t)) (start : P s) : P t := by
  have kept := Setting.applyAll_keeps keeps env (c.settings clientId) start
  rwa [(stage_eq_ok_iff.mp staged).2] at kept

end BrokerSession
