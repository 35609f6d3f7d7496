import BrokerSession.Topic
import BrokerSession.Proofs.Requirement

/-!
# The grammar of topics

A topic is put together from its levels with slashes between them, and the levels are all there is to know about it.
What may stand in a level depends on what the topic is for: a name has no wildcard anywhere, and in a filter a
wildcard fills a level of its own, `#` the last one.

## Main definitions

* `Topic.sharedRequirements` - what is asked of names and filters alike
* `Topic.nameRequirements`, `Topic.filterRequirements` - what is asked of either, in the order in which it is checked
* `Topic.InPlace` - the grammar of filters, as a statement about each level and its place

## Main results

* `levels_injective` - a topic can be put together from its levels
* `levelsFit_iff` - the check from level to level accepts what the grammar allows
* `filterFault?_of_grammar` - which filters are accepted, and why the others are not
-/

namespace BrokerSession.Topic

open Requirement (firstFault? FirstFault)

variable {t u : String} {c : Char} {level : List Char}

/-! ## Levels -/

/-- A topic is its levels with slashes between them. -/
theorem intercalate_levels (t : String) : List.intercalate ['/'] (levels t) = t.toList :=
  List.intercalate_splitOn '/'

/-- A topic can be put together from its levels. -/
theorem levels_injective (same : levels t = levels u) : t = u := by
  apply String.toList_injective
  rw [← intercalate_levels t, ← intercalate_levels u, same]

/-- What stands in one of some pieces stands in what they are put together to. -/
theorem mem_intercalate_of_mem {α : Type} {between piece : List α} {pieces : List (List α)} {a : α}
    (among : piece ∈ pieces) (held : a ∈ piece) : a ∈ List.intercalate between pieces := by
  induction pieces with
  | nil => cases among
  | cons first rest ih =>
    cases rest with
    | nil =>
      rw [List.mem_singleton] at among
      rwa [List.intercalate_singleton, ← among]
    | cons second rest =>
      rw [List.intercalate_cons_cons]
      rcases List.mem_cons.mp among with rfl | later
      · simp [held]
      · simp [ih later]

/-- What stands in a level stands in the topic. -/
theorem mem_of_mem_levels (among : level ∈ levels t) (held : c ∈ level) : c ∈ t.toList := by
  rw [← intercalate_levels]
  exact mem_intercalate_of_mem among held

/-! ## Wildcards and their places -/

/-- The grammar of filters: a level is `+`, or has no wildcard in it, or is `#` and the last one. -/
def InPlace (levels : List (List Char)) : Prop :=
  ∀ (i : Nat) (h : i < levels.length),
    levels[i] = ['+'] ∨ ('+' ∉ levels[i] ∧ '#' ∉ levels[i]) ∨ (levels[i] = ['#'] ∧ i + 1 = levels.length)

instance (levels : List (List Char)) : Decidable (InPlace levels) :=
  inferInstanceAs (Decidable (∀ (i : Nat) (_ : i < levels.length), _))

theorem any_isWildcard_eq_false_iff {cs : List Char} : cs.any isWildcard = false ↔ '+' ∉ cs ∧ '#' ∉ cs := by
  simp only [List.any_eq_false, isWildcard, Bool.or_eq_true, beq_iff_eq, not_or]
  constructor
  · intro plain
    exact ⟨fun held => (plain _ held).1 rfl, fun held => (plain _ held).2 rfl⟩
  · rintro ⟨noPlus, noHash⟩ c held
    exact ⟨fun same => noPlus (same ▸ held), fun same => noHash (same ▸ held)⟩

/-- What is asked of the wildcards one by one leaves three shapes of a level. -/
theorem levelFits_iff {last : Bool} :
    levelFits last level = true ↔
      level = ['+'] ∨ ('+' ∉ level ∧ '#' ∉ level) ∨ (level = ['#'] ∧ last = true) := by
  have tests : levelFits last level = true ↔
      ('#' ∈ level → level = ['#'] ∧ last = true) ∧ ('+' ∈ level → level = ['+']) := by
    simp [levelFits, Decidable.imp_iff_not_or]
  rw [tests]
  constructor
  · rintro ⟨hash, plus⟩
    by_cases someHash : '#' ∈ level
    · exact .inr (.inr (hash someHash))
    · by_cases somePlus : '+' ∈ level
      · exact .inl (plus somePlus)
      · exact .inr (.inl ⟨somePlus, someHash⟩)
  · rintro (rfl | ⟨noPlus, noHash⟩ | ⟨rfl, isLast⟩)
    · simp
    · exact ⟨fun held => absurd held noHash, fun held => absurd held noPlus⟩
    · simp [isLast]

/-- The first of several levels is not the last one, and the others keep their distance from the end. -/
theorem inPlace_cons_iff {rest : List (List Char)} (more : rest ≠ []) :
    InPlace (level :: rest) ↔ levelFits false level = true ∧ InPlace rest := by
  rw [levelFits_iff]
  constructor
  · intro placed
    constructor
    · have here := placed 0 (by simp)
      simpa [more] using here
    · intro i h
      have here := placed (i + 1) (by simpa using h)
      simpa using here
  · rintro ⟨first, placed⟩ i h
    cases i with
    | zero => simpa [more] using first
    | succ i =>
      have here := placed i (by simpa using h)
      simpa using here

/-- The check from level to level accepts what the grammar allows. -/
theorem levelsFit_iff (levels : List (List Char)) : levelsFit levels = true ↔ InPlace levels := by
  fun_induction levelsFit levels with
  | case1 => simp [InPlace]
  | case2 level => simp [InPlace, levelFits_iff]
  | case3 level rest more ih =>
    rw [Bool.and_eq_true, ih, inPlace_cons_iff more]

/-! ## What is asked of a topic -/

/-- What is asked of names and filters alike. The length is that of the bytes. -/
def sharedRequirements (t : String) : List (Requirement TopicFault) :=
  [⟨t ≠ "", .emptyTopic⟩,
   ⟨t.utf8ByteSize ≤ 65535, .topicTooLong t.utf8ByteSize⟩,
   ⟨'\x00' ∉ t.toList, .nulCharacter⟩]

/-- What is asked of a name. -/
def nameRequirements (t : String) : List (Requirement TopicFault) :=
  sharedRequirements t ++ [⟨'+' ∉ t.toList ∧ '#' ∉ t.toList, .wildcardInTopicName t⟩]

/-- What is asked of a filter. -/
def filterRequirements (f : String) : List (Requirement TopicFault) :=
  sharedRequirements f ++ [⟨InPlace (levels f), .malformedFilter f⟩]

theorem commonFault?_eq (t : String) : commonFault? t = firstFault? (sharedRequirements t) := by
  simp only [commonFault?, sharedRequirements, Requirement.firstFault?_cons, Requirement.firstFault?_nil]
  by_cases empty : t = ""
  · simp [empty]
  · by_cases long : t.utf8ByteSize ≤ 65535
    · simp [empty, long, maxBytes, Nat.not_lt.mpr long]
    · simp [empty, long, maxBytes, Nat.lt_of_not_le long]

theorem nameFault?_eq (t : String) : nameFault? t = firstFault? (nameRequirements t) := by
  have plain : hasWildcard t = false ↔ '+' ∉ t.toList ∧ '#' ∉ t.toList := any_isWildcard_eq_false_iff
  rw [nameFault?, nameRequirements, Requirement.firstFault?_append, ← commonFault?_eq, Requirement.firstFault?_cons,
    Requirement.firstFault?_nil]
  simp only [← plain]
  cases hasWildcard t <;> simp

theorem filterFault?_eq (f : String) : filterFault? f = firstFault? (filterRequirements f) := by
  rw [filterFault?, filterRequirements, Requirement.firstFault?_append, ← commonFault?_eq,
    Requirement.firstFault?_cons]
  simp [levelsFit_iff]

theorem name_iff_requirements : Name t ↔ ∀ r ∈ nameRequirements t, r.holds := by
  rw [Name, nameFault?_eq, Requirement.firstFault?_eq_none_iff]

theorem name_iff :
    Name t ↔
      t ≠ "" ∧ t.utf8ByteSize ≤ 65535 ∧ '\x00' ∉ t.toList ∧ '+' ∉ t.toList ∧ '#' ∉ t.toList := by
  rw [name_iff_requirements]
  simp [nameRequirements, sharedRequirements]

theorem filter_iff :
    Filter t ↔ t ≠ "" ∧ t.utf8ByteSize ≤ 65535 ∧ '\x00' ∉ t.toList ∧ InPlace (levels t) := by
  rw [Filter, filterFault?_eq, Requirement.firstFault?_eq_none_iff]
  simp [filterRequirements, sharedRequirements]

/-- Every level has its place where no wildcard stands. -/
theorem inPlace_of_plain (noPlus : '+' ∉ t.toList) (noHash : '#' ∉ t.toList) : InPlace (levels t) := by
  intro i h
  refine .inr (.inl ⟨fun held => noPlus ?_, fun held => noHash ?_⟩)
  · exact mem_of_mem_levels (List.getElem_mem h) held
  · exact mem_of_mem_levels (List.getElem_mem h) held

/-- Without wildcards it makes no difference what a topic is for. -/
theorem nameFault?_eq_filterFault? (noPlus : '+' ∉ t.toList) (noHash : '#' ∉ t.toList) :
    nameFault? t = filterFault? t := by
  rw [nameFault?_eq, filterFault?_eq, nameRequirements, filterRequirements, Requirement.firstFault?_append,
    Requirement.firstFault?_append]
  congr 1
  simp [Requirement.firstFault?_cons, noPlus, noHash, inPlace_of_plain]

/-- Which filters are accepted, and why the others are not. -/
theorem filterFault?_of_grammar (f : String) :
    (filterFault? f = none ↔
      f ≠ "" ∧ f.utf8ByteSize ≤ 65535 ∧ '\x00' ∉ f.toList ∧
        ∀ (i : Nat) (h : i < (levels f).length),
          (levels f)[i] = ['+'] ∨ ('+' ∉ (levels f)[i] ∧ '#' ∉ (levels f)[i]) ∨
            ((levels f)[i] = ['#'] ∧ i + 1 = (levels f).length)) ∧
      ∀ e, filterFault? f = some e ↔ FirstFault (filterRequirements f) e := by
  constructor
  · exact filter_iff
  · intro e
    rw [filterFault?_eq, Requirement.firstFault?_eq_some_iff]

/-- An empty level behind a `#` is a level. -/
example : filterFault? "sport/#/" = some (.malformedFilter "sport/#/") := by decide

end BrokerSession.Topic
