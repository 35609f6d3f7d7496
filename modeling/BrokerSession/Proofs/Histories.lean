import Mathlib.Data.List.Basic

/-!
# Places in a history

Histories grow at their end, and what is asked of them is often about a place: about what came before it, what stands
there and what has come since. When one thing more happens, a place is either the new one or one of those there were.

## Main results

* `concat_eq_append_cons_iff` - the places of a history that has grown
* `forall_split_concat` - what holds at all of them
* `exists_split_concat` - something has happened and lasts
-/

namespace BrokerSession

variable {α : Type} {xs : List α} {x : α}

/-- A place in a list is the last one, or one of those before it. -/
theorem concat_eq_append_cons_iff {early late : List α} {y : α} :
    xs ++ [x] = early ++ y :: late ↔
      (early = xs ∧ y = x ∧ late = []) ∨ ∃ rest, late = rest ++ [x] ∧ xs = early ++ y :: rest := by
  constructor
  · intro h
    rcases late.eq_nil_or_concat with rfl | ⟨rest, z, rfl⟩
    · obtain ⟨rfl, rfl⟩ := List.append_singleton_inj.mp h
      exact .inl ⟨rfl, rfl, rfl⟩
    · rw [List.concat_eq_append, ← List.cons_append, ← List.append_assoc] at h
      obtain ⟨rfl, rfl⟩ := List.append_singleton_inj.mp h
      exact .inr ⟨rest, List.concat_eq_append, rfl⟩
  · rintro (⟨rfl, rfl, rfl⟩ | ⟨rest, rfl, rfl⟩)
    · rfl
    · simp

/-- What holds at every place of a list holds at its last place and at the places before. -/
theorem forall_split_concat {P : List α → α → Prop} :
    (∀ early y late, xs ++ [x] = early ++ y :: late → P early y) ↔
      (∀ early y late, xs = early ++ y :: late → P early y) ∧ P xs x := by
  constructor
  · intro all
    refine ⟨?_, all xs x [] rfl⟩
    intro early y late h
    exact all early y (late ++ [x]) (by simp [h])
  · rintro ⟨old, new⟩ early y late h
    obtain ⟨rfl, rfl, -⟩ | ⟨rest, -, h⟩ := concat_eq_append_cons_iff.mp h
    · exact new
    · exact old early y rest h

/-- Something has happened and lasts if it is the last thing that happened, or happened before and the last thing did
not put an end to it. -/
theorem exists_split_concat {P : List α → α → Prop} {Q : α → Prop} :
    (∃ early y late, xs ++ [x] = early ++ y :: late ∧ P early y ∧ ∀ z ∈ late, Q z) ↔
      P xs x ∨ (∃ early y late, xs = early ++ y :: late ∧ P early y ∧ ∀ z ∈ late, Q z) ∧ Q x := by
  constructor
  · rintro ⟨early, y, late, h, happened, lasts⟩
    obtain ⟨rfl, rfl, -⟩ | ⟨rest, rfl, split⟩ := concat_eq_append_cons_iff.mp h
    · exact .inl happened
    · refine .inr ⟨⟨early, y, rest, split, happened, ?_⟩, lasts x (by simp)⟩
      intro z among
      exact lasts z (List.mem_append_left _ among)
  · rintro (happened | ⟨⟨early, y, late, rfl, happened, lasts⟩, last⟩)
    · exact ⟨xs, x, [], rfl, happened, by simp⟩
    · refine ⟨early, y, late ++ [x], by simp, happened, ?_⟩
      intro z among
      rcases List.mem_append.mp among with old | new
      · exact lasts z old
      · rwa [List.mem_singleton.mp new]

end BrokerSession
