/-!
# The directory of live sessions

Engines do not hold their session; they hold a key. The directory resolves a key when an event arrives, and
an event whose key is not in the directory concerns nobody. Keys are numbered and never given out twice.

## Main definitions

* `SessionKey` - the key of a session
* `Directory` - what is registered under which key
* `Directory.register`, `Directory.unregister`, `Directory.clear` - the ways it changes
* `Directory.lookup?` - what is registered under a key
-/

namespace BrokerSession

/-- The key of a registered session. -/
structure SessionKey where
  number : Nat
  deriving DecidableEq, Repr, Inhabited

/-- The text of a key. -/
def SessionKey.message (k : SessionKey) : String := "session-" ++ toString k.number

/-- What is registered under which key, and the number of the next key. -/
structure Directory (α : Type) where
  entries : List (SessionKey × α)
  next : Nat
  /-- The numbers of the keys stand in the order in which they were given out, and the next one comes after all
  of them. -/
  ascending : (entries.map (·.1.number) ++ [next]).Pairwise (· < ·)
  deriving Repr

namespace Directory

variable {α : Type}

/-- The directory before anything was registered. -/
def empty : Directory α := ⟨[], 0, List.pairwise_singleton ..⟩

instance : Inhabited (Directory α) := ⟨empty⟩

/-- Registers something under a new key. -/
def register (d : Directory α) (a : α) : SessionKey × Directory α :=
  (⟨d.next⟩, {
    entries := d.entries ++ [(⟨d.next⟩, a)]
    next := d.next + 1
    ascending := by
      have below : ∀ n ∈ d.entries.map (·.1.number) ++ [d.next], n < d.next + 1 := by
        have h := (List.pairwise_append.mp d.ascending).2.2
        intro n hn
        rcases List.mem_append.mp hn with old | new
        · exact Nat.lt_succ_of_lt (h n old d.next (List.mem_singleton_self _))
        · exact Nat.lt_succ_of_le (Nat.le_of_eq (List.mem_singleton.mp new))
      rw [List.map_append]
      refine List.pairwise_append.mpr ⟨d.ascending, List.pairwise_singleton .., ?_⟩
      intro n hn m hm
      rw [List.mem_singleton.mp hm]
      exact below n hn })

/-- What is registered under a key. -/
def lookup? (d : Directory α) (k : SessionKey) : Option α :=
  (d.entries.find? (·.1 == k)).map (·.2)

/-- Whether something is registered under a key. -/
def contains (d : Directory α) (k : SessionKey) : Bool := (d.lookup? k).isSome

/-- Takes a key out, and hands back what was registered under it. -/
def unregister (d : Directory α) (k : SessionKey) : Option α × Directory α :=
  (d.lookup? k, {
    entries := d.entries.filter (·.1 != k)
    next := d.next
    ascending := d.ascending.sublist ((List.filter_sublist.map _).append_right _) })

/-- Takes every key out. The numbering goes on. -/
def clear (d : Directory α) : Directory α := ⟨[], d.next, List.pairwise_singleton ..⟩

/-- What was just registered is found under its key: no other entry has the number. -/
theorem lookup?_register (d : Directory α) (a : α) :
    (d.register a).2.lookup? (d.register a).1 = some a := by
  have below := (List.pairwise_append.mp d.ascending).2.2
  have fresh : d.entries.find? (·.1 == ⟨d.next⟩) = none := by
    rw [List.find?_eq_none]
    intro entry held same
    have smaller := below _ (List.mem_map_of_mem held) d.next (List.mem_singleton_self _)
    rw [beq_iff_eq.mp same] at smaller
    exact Nat.lt_irrefl _ smaller
  simp [lookup?, register, List.find?_append, fresh]

/-- Registering something leaves the other keys as they are. -/
theorem lookup?_register_of_ne {d : Directory α} {k : SessionKey} (a : α)
    (other : k ≠ (d.register a).1) : (d.register a).2.lookup? k = d.lookup? k := by
  have unlike : ((d.register a).1 == k) = false := beq_false_of_ne (Ne.symm other)
  change ((⟨d.next⟩ : SessionKey) == k) = false at unlike
  simp [lookup?, register, List.find?_append, unlike]

@[simp] theorem lookup?_unregister (d : Directory α) (k : SessionKey) :
    (d.unregister k).2.lookup? k = none := by
  simp [lookup?, unregister]

/-- Taking out a key leaves the others as they are. -/
theorem lookup?_unregister_of_ne {d : Directory α} {k k' : SessionKey} (other : k' ≠ k) :
    (d.unregister k).2.lookup? k' = d.lookup? k' := by
  have kept : (fun entry : SessionKey × α => decide ((entry.1 != k) = true ∧ (entry.1 == k') = true)) =
      (·.1 == k') := by
    funext entry
    by_cases same : entry.1 = k' <;> simp [same, other]
  simp only [lookup?, unregister, List.find?_filter, kept]

@[simp] theorem lookup?_clear (d : Directory α) (k : SessionKey) : d.clear.lookup? k = none :=
  rfl

/-- How many keys are registered. -/
def size (d : Directory α) : Nat := d.entries.length

/-- The keys under which something is registered. -/
def keys (d : Directory α) : List SessionKey := d.entries.map (·.1)

theorem mem_keys_iff {d : Directory α} {k : SessionKey} :
    k ∈ d.keys ↔ (d.lookup? k).isSome = true := by
  simp [keys, lookup?, List.find?_isSome]

/-- No key is registered twice. -/
theorem keys_nodup (d : Directory α) : d.keys.Nodup := by
  have ascending := (List.pairwise_append.mp d.ascending).1
  rw [List.pairwise_map] at ascending
  rw [keys, List.Nodup, List.pairwise_map]
  exact ascending.imp fun below same => Nat.ne_of_lt below (congrArg SessionKey.number same)

theorem length_keys (d : Directory α) : d.keys.length = d.size := List.length_map ..

/-- Whether no key is registered. -/
def isEmpty (d : Directory α) : Bool := d.size == 0

end Directory

end BrokerSession
