import BrokerSession.Topic.Matching
import BrokerSession.Proofs.Topic
import BrokerSession.Proofs.Loopback.Replies
import Mathlib.Data.List.Forall2

/-!
# What a filter selects

The comparison of a filter with a topic goes from level to level and is over at the first `#`. In a filter that keeps to
the grammar there is nothing behind a `#`, so what is left out of the comparison is left out on purpose. A filter without
wildcards selects itself only, and the names of topics are such filters.

## Main definitions

* `Topic.StandsFor` - a level of a filter stands for a level of a topic
* `Topic.LevelByLevel` - levels of a filter without `#` stand one by one for the levels of a topic

## Main results

* `levelsMatch_iff` - what the comparison finds out about any two lists of levels
* `selects_of_filter` - the topics that a filter selects
* `name_as_filter` - a name is a filter that selects nothing but itself
-/

namespace BrokerSession.Topic

variable {f t u : String} {wanted level : List Char} {F P T : List (List Char)}

/-- A level of a filter stands for a level of a topic: `+` for any, every other one for itself. -/
def StandsFor (wanted level : List Char) : Prop := wanted = ['+'] ∨ wanted = level

/-- Levels of a filter without `#` stand for as many levels of a topic, each for the one at its place. -/
def LevelByLevel (F T : List (List Char)) : Prop := ['#'] ∉ F ∧ List.Forall₂ StandsFor F T

theorem levelByLevel_cons_iff (plain : wanted ≠ ['#']) :
    LevelByLevel (wanted :: F) (level :: T) ↔ StandsFor wanted level ∧ LevelByLevel F T := by
  simp only [LevelByLevel, List.mem_cons, List.forall₂_cons, not_or]
  constructor
  · rintro ⟨⟨-, others⟩, first, rest⟩
    exact ⟨first, others, rest⟩
  · rintro ⟨first, others, rest⟩
    exact ⟨⟨Ne.symm plain, others⟩, first, rest⟩

/-- A level that is no `#` is compared with the level at its place, and the others are compared behind it. -/
theorem levelsMatch_cons_iff (plain : wanted ≠ ['#']) :
    levelsMatch (wanted :: F) (level :: T) = true ↔ StandsFor wanted level ∧ levelsMatch F T = true := by
  unfold StandsFor
  by_cases any : wanted = ['+']
  · subst any
    simp [levelsMatch]
  · simp [levelsMatch, any]

theorem levelsMatch_nil_iff : levelsMatch [] T = true ↔ T = [] := by
  cases T <;> simp [levelsMatch]

theorem levelsMatch_cons_nil (plain : wanted ≠ ['#']) : levelsMatch (wanted :: F) [] = false := by
  simp [levelsMatch, plain]

/-- What the comparison finds out: either there is no `#` and the levels stand for each other, or the levels before
the first `#` stand for the first ones of the topic. -/
theorem levelsMatch_iff (F T : List (List Char)) :
    levelsMatch F T = true ↔
      LevelByLevel F T ∨
        ∃ P R, F = P ++ ['#'] :: R ∧ P.length ≤ T.length ∧ LevelByLevel P (T.take P.length) := by
  induction F generalizing T with
  | nil =>
    rw [levelsMatch_nil_iff]
    simp [LevelByLevel]
  | cons wanted F ih =>
    by_cases hash : wanted = ['#']
    · subst hash
      have found : levelsMatch (['#'] :: F) T = true := by simp [levelsMatch]
      refine iff_of_true found (.inr ⟨[], F, rfl, Nat.zero_le _, ?_⟩)
      simp [LevelByLevel]
    · -- The level is compared by itself, and a `#` can only come behind it.
      cases T with
      | nil =>
        rw [levelsMatch_cons_nil hash]
        refine iff_of_false Bool.false_ne_true ?_
        rintro (⟨-, stands⟩ | ⟨P, R, whole, short, -⟩)
        · cases stands
        · rw [List.eq_nil_of_length_eq_zero (Nat.le_zero.mp short)] at whole
          exact hash (List.cons.inj whole).1
      | cons level T =>
        rw [levelsMatch_cons_iff hash, ih, levelByLevel_cons_iff hash, and_or_left]
        refine or_congr_right ⟨?_, ?_⟩
        · rintro ⟨stands, P, R, rfl, short, rest⟩
          refine ⟨wanted :: P, R, rfl, Nat.succ_le_succ short, ?_⟩
          exact (levelByLevel_cons_iff hash).mpr ⟨stands, rest⟩
        · rintro ⟨P, R, whole, short, stands⟩
          cases P with
          | nil => exact absurd (List.cons.inj whole).1 hash
          | cons first P =>
            obtain ⟨rfl, rfl⟩ := List.cons.inj whole
            obtain ⟨here, rest⟩ := (levelByLevel_cons_iff hash).mp stands
            exact ⟨here, P, R, rfl, Nat.le_of_succ_le_succ short, rest⟩

/-- In a filter nothing stands behind a `#`. -/
theorem nil_of_levels_eq (valid : Filter f) {R : List (List Char)} (split : levels f = P ++ ['#'] :: R) : R = [] := by
  obtain ⟨-, -, -, placed⟩ := filter_iff.mp valid
  rw [split] at placed
  have last := placed P.length (by simp)
  simpa using last

/-- The topics that a filter selects: those with as many levels that it stands for one by one, and, if it ends in `#`,
those whose first levels are what stands before the `#`. -/
theorem selects_of_filter {f : String} (valid : Filter f) (t : String) :
    selects f t = true ↔
      LevelByLevel (levels f) (levels t) ∨
        ∃ P, levels f = P ++ [['#']] ∧ P.length ≤ (levels t).length ∧
          LevelByLevel P ((levels t).take P.length) := by
  rw [selects, levelsMatch_iff]
  refine or_congr_right (exists_congr fun P => ⟨?_, ?_⟩)
  · rintro ⟨R, split, short, stands⟩
    obtain rfl := nil_of_levels_eq valid split
    exact ⟨split, short, stands⟩
  · rintro ⟨split, short, stands⟩
    exact ⟨[], split, short, stands⟩

/-- A filter that ends in `#` selects what stands before it as well. -/
theorem selects_of_filter_parent :
    Filter "sport/+/#" ∧ selects "sport/+/#" "sport/tennis" = true := by
  have valid : Filter "sport/+/#" := by decide
  refine ⟨valid, (selects_of_filter valid _).mpr (.inr ⟨levels "sport/+", by decide, by decide, by decide, ?_⟩)⟩
  exact .cons (.inr rfl) (.cons (.inl rfl) .nil)

/-! ## Names -/

theorem eq_of_levelByLevel (named : ['+'] ∉ F) (stands : LevelByLevel F T) : F = T := by
  obtain ⟨-, each⟩ := stands
  induction each with
  | nil => rfl
  | cons first _ ih =>
    obtain ⟨here, rest⟩ := not_or.mp (mt List.mem_cons.mpr named)
    rw [first.resolve_left (Ne.symm here), ih rest]

theorem levelByLevel_self (noHash : ['#'] ∉ F) : LevelByLevel F F :=
  ⟨noHash, List.forall₂_same.mpr fun _ _ => .inr rfl⟩

/-- A filter without wildcards selects itself and nothing else. -/
theorem selects_iff_of_plain (noPlus : '+' ∉ t.toList) (noHash : '#' ∉ t.toList) (u : String) :
    selects t u = true ↔ u = t := by
  have noPlusLevel : ['+'] ∉ levels t := fun among => noPlus (mem_of_mem_levels among (List.mem_singleton_self _))
  have noHashLevel : ['#'] ∉ levels t := fun among => noHash (mem_of_mem_levels among (List.mem_singleton_self _))
  rw [selects, levelsMatch_iff]
  constructor
  · rintro (stands | ⟨P, R, split, -⟩)
    · exact (levels_injective (eq_of_levelByLevel noPlusLevel stands)).symm
    · exact absurd (by simp [split]) noHashLevel
  · rintro rfl
    exact .inl (levelByLevel_self noHashLevel)

/-- The only subscription of an engine, if it is to a topic without wildcards, is served with that topic only. -/
theorem delivery?_subscribe_of_plain (noPlus : '+' ∉ t.toList) (noHash : '#' ∉ t.toList) {s : Loopback}
    (first : s.subscriptions = []) (granted qos : Qos) (u : String) :
    (s.subscribe [t] granted).2.delivery? u qos = if u = t then some (qos.weaker granted) else none := by
  have held : (s.subscribe [t] granted).2.subscriptions = [(t, granted)] := by
    simp [Loopback.subscribe, Loopback.subscribed, first]
  have alone := selects_iff_of_plain noPlus noHash u
  rw [Loopback.delivery?, held]
  by_cases same : u = t
  · subst same
    simp [alone.mpr rfl]
  · simp [Bool.eq_false_iff.mpr (mt alone.mp same), same]

/-- A name is a filter without wildcards, is found fault with for the same reasons as such a filter, and selects nothing
but itself: who subscribes to it is sent what is published to it, and nothing else. -/
theorem name_as_filter (t : String) :
    (Name t ↔ Filter t ∧ '+' ∉ t.toList ∧ '#' ∉ t.toList) ∧
      ('+' ∉ t.toList → '#' ∉ t.toList → nameFault? t = filterFault? t) ∧
      (Name t → (∀ u, selects t u = true ↔ u = t) ∧
        ∀ (s : Loopback) (granted qos : Qos) (u : String), s.subscriptions = [] →
          (s.subscribe [t] granted).2.delivery? u qos = if u = t then some (qos.weaker granted) else none) := by
  refine ⟨⟨fun named => ?_, fun ⟨valid, noPlus, noHash⟩ => ?_⟩, nameFault?_eq_filterFault?, fun named => ?_⟩
  · obtain ⟨-, -, -, noPlus, noHash⟩ := name_iff.mp named
    refine ⟨?_, noPlus, noHash⟩
    rw [Filter, ← nameFault?_eq_filterFault? noPlus noHash]
    exact named
  · rw [Name, nameFault?_eq_filterFault? noPlus noHash]
    exact valid
  · obtain ⟨-, -, -, noPlus, noHash⟩ := name_iff.mp named
    exact ⟨selects_iff_of_plain noPlus noHash,
      fun s granted qos u first => delivery?_subscribe_of_plain noPlus noHash first granted qos u⟩

/-- The topic next to a name that was subscribed to is not among what is sent. -/
theorem name_as_filter_sport :
    Name "sport/tennis" ∧ selects "sport/tennis" "sport/tennis" = true ∧
      selects "sport/tennis" "sport/tennis/score" = false := by
  have named : Name "sport/tennis" := by decide
  have alone := ((name_as_filter "sport/tennis").2.2 named).1
  refine ⟨named, (alone _).mpr rfl, Bool.eq_false_iff.mpr (mt (alone _).mp ?_)⟩
  decide

end BrokerSession.Topic
