import BrokerSession.Proofs.Histories
import BrokerSession.Switchboard
import Mathlib.Data.List.Induction
import Mathlib.Data.Set.Card

/-!
# Events reach the session whose key they carry

The sessions of a process come and go, and their keys outlive them: the engine of a session that was taken out of
the directory goes on emitting under its key, and a session may be taken out a second time, long after others have
come. Nothing but the history says whom a key stands for. It stands for the session that was registered under it, as
long as the key was not taken out and the directory was not cleared since; and since no key is given out twice, a key
that has lost its session never gets another one.

## Main definitions

* `Switchboard.Move`, `Switchboard.Deed` - what can happen to the sessions of a process, and what came of it
* `Switchboard.play` - the deeds of a run, with the switchboard at its end
* `Switchboard.Live` - a key was registered for a session and has not lost it since

## Main results

* `Faithful.proceed` - the directory resolves the live keys and no others, whatever happens next
* `dispatch_of_history` - whom an event reaches, what is taken out and how many sessions are registered, after any
  run, and that a key without a session stays without one
-/

namespace BrokerSession

namespace Switchboard

/-! ## Runs -/

/-- What can happen to the sessions of a process. -/
inductive Move where
  /-- A new session is registered. -/
  | register (a : Attendance)
  /-- A session that is there already is registered under another key. -/
  | reinstate (place : Nat)
  | unregister (k : SessionKey)
  | clear
  | emit (k : SessionKey) (e : EngineEvent)
  /-- The owner of a session moves it. -/
  | steer (place : Nat) (standing : Standing)

/-- What came of a move. -/
inductive Deed where
  | registered (k : SessionKey) (place : Nat)
  | unregistered (k : SessionKey) (found : Option Attendance)
  | cleared
  | emitted (k : SessionKey) (e : EngineEvent) (reached : Option (Nat × Option Notice))
  | steered (place : Nat)

/-- What comes of a move, with the switchboard after it; `none` for a move of a session that is not there. -/
def act? (b : Switchboard) : Move → Option (Deed × Switchboard)
  | .register a =>
    let (k, place, b) := b.register a
    some (.registered k place, b)
  | .reinstate place =>
    if place < b.sessions.length then
      let (k, directory) := b.directory.register place
      some (.registered k place, { b with directory })
    else none
  | .unregister k =>
    let (found, b) := b.unregister k
    some (.unregistered k found, b)
  | .clear => some (.cleared, b.clear)
  | .emit k e =>
    let (reached, b) := b.dispatch k e
    some (.emitted k e reached, b)
  | .steer place standing =>
    b.sessions[place]?.map fun a =>
      (.steered place, { b with sessions := b.sessions.set place { a with standing } })

/-- The deeds so far and the switchboard, after one more move; a move that cannot be made is passed over. -/
def proceed (p : List Deed × Switchboard) (m : Move) : List Deed × Switchboard :=
  match p.2.act? m with
  | some (d, b) => (p.1 ++ [d], b)
  | none => p

/-- The deeds of a run, the earliest first, with the switchboard at its end. -/
def play (ms : List Move) : List Deed × Switchboard := ms.foldl proceed ([], empty)

theorem play_concat (ms : List Move) (m : Move) : play (ms ++ [m]) = proceed (play ms) m := by
  simp [play]

/-! ## What a history says about a key -/

namespace Deed

/-- The key that was given out. -/
def key? : Deed → Option SessionKey
  | registered k _ => some k
  | _ => none

/-- Whether a key has lost its session. -/
def ends (k : SessionKey) : Deed → Bool
  | unregistered k' _ => k' == k
  | cleared => true
  | _ => false

end Deed

/-- The keys that were given out in a history. -/
def given (h : List Deed) : List SessionKey := h.filterMap Deed.key?

/-- Whether a key was registered for the session at a place, and has not lost it since. -/
def Live (h : List Deed) (k : SessionKey) (place : Nat) : Prop :=
  ∃ early late, h = early ++ .registered k place :: late ∧ ∀ d ∈ late, d.ends k = false

variable {h : List Deed} {b : Switchboard} {d : Deed} {k : SessionKey} {place : Nat}

theorem Live.mem_given (live : Live h k place) : k ∈ given h := by
  obtain ⟨early, late, rfl, -⟩ := live
  exact List.mem_filterMap.mpr ⟨.registered k place, by simp, rfl⟩

theorem live_iff :
    Live h k place ↔
      ∃ early d late, h = early ++ d :: late ∧ d = .registered k place ∧ ∀ d' ∈ late, d'.ends k = false := by
  constructor
  · rintro ⟨early, late, split, lasting⟩
    exact ⟨early, _, late, split, rfl, lasting⟩
  · rintro ⟨early, _, late, split, rfl, lasting⟩
    exact ⟨early, late, split, lasting⟩

/-- One deed more makes a key live, or leaves it alive. -/
theorem live_concat_iff :
    Live (h ++ [d]) k place ↔ d = .registered k place ∨ Live h k place ∧ d.ends k = false := by
  rw [live_iff, live_iff]
  exact exists_split_concat (P := fun _ (d : Deed) => d = .registered k place) (Q := fun d => d.ends k = false)

/-! ## The directory keeps the history -/

/-- Whether a switchboard is what its history says: the keys were numbered in the order in which they were given out,
and the directory resolves the live ones. -/
structure Faithful (p : List Deed × Switchboard) : Prop where
  numbered : (given p.1).map (·.number) = List.range p.2.directory.next
  live : ∀ k place, p.2.directory.lookup? k = some place ↔ Live p.1 k place
  /-- Every registered session is there. -/
  placed : ∀ k place, p.2.directory.lookup? k = some place → place < p.2.sessions.length

namespace Faithful

theorem number_lt (f : Faithful (h, b)) (out : k ∈ given h) : k.number < b.directory.next := by
  have among : k.number ∈ (given h).map (·.number) := List.mem_map_of_mem out
  rw [f.numbered] at among
  exact List.mem_range.mp among

theorem nodup (f : Faithful (h, b)) : (given h).Nodup := by
  have distinct : ((given h).map (·.number)).Nodup := by
    rw [f.numbered]
    exact List.nodup_range
  exact distinct.of_map _

/-- The next key was never given out. -/
theorem fresh (f : Faithful (h, b)) : (⟨b.directory.next⟩ : SessionKey) ∉ given h :=
  fun out => Nat.lt_irrefl _ (f.number_lt out)

/-- A session that is registered gets the next key, and the other keys keep theirs. -/
theorem registered {sessions : List Attendance} (f : Faithful (h, b))
    (more : b.sessions.length ≤ sessions.length) (there : place < sessions.length) :
    Faithful (h ++ [.registered (b.directory.register place).1 place],
      ⟨sessions, (b.directory.register place).2⟩) := by
  have lookups : ∀ k place', (b.directory.register place).2.lookup? k = some place' ↔
      Live (h ++ [.registered (b.directory.register place).1 place]) k place' := by
    intro k place'
    rw [live_concat_iff, ← f.live]
    -- Only under the new key something else is found than before, and nothing was found there yet.
    by_cases new : k = (b.directory.register place).1
    · subst new
      have unknown : ¬ b.directory.lookup? (b.directory.register place).1 = some place' :=
        fun old => f.fresh ((f.live _ _).mp old).mem_given
      rw [Directory.lookup?_register]
      simp [unknown]
    · rw [Directory.lookup?_register_of_ne place new]
      have unlike : ¬ Deed.registered (b.directory.register place).1 place = .registered k place' :=
        fun same => new (Deed.registered.inj same).1.symm
      simp [unlike, Deed.ends]
  refine ⟨?_, lookups, fun k place' found => ?_⟩
  · have drawn : given (h ++ [.registered (b.directory.register place).1 place]) =
        given h ++ [⟨b.directory.next⟩] := by
      simp [given, Deed.key?, Directory.register]
    rw [drawn, List.map_append, f.numbered]
    exact List.range_succ.symm
  · rcases live_concat_iff.mp ((lookups k place').mp found) with same | ⟨old, -⟩
    · cases same
      exact there
    · exact Nat.lt_of_lt_of_le (f.placed k place' ((f.live k place').mpr old)) more

/-- Without a new key the directory follows the history if it lets go of the keys that have lost their session. -/
theorem follow {b' : Switchboard} (f : Faithful (h, b)) (unkeyed : d.key? = none)
    (next : b'.directory.next = b.directory.next)
    (kept : b'.sessions.length = b.sessions.length)
    (lookups : ∀ k, b'.directory.lookup? k = if d.ends k then none else b.directory.lookup? k) :
    Faithful (h ++ [d], b') := by
  have drawn : given (h ++ [d]) = given h := by simp [given, unkeyed]
  refine ⟨by rw [drawn, next]; exact f.numbered, fun k place => ?_, fun k place found => ?_⟩
  · have other : d ≠ .registered k place := by
      rintro rfl
      cases unkeyed
    rw [live_concat_iff, ← f.live, lookups]
    cases d.ends k <;> simp [other]
  · rw [lookups] at found
    split at found
    · cases found
    · rw [kept]
      exact f.placed k place found

end Faithful

/-- An event moves at most the session it reaches. -/
theorem dispatch_frame (b : Switchboard) (k : SessionKey) (e : EngineEvent) :
    ∃ sessions, sessions.length = b.sessions.length ∧ (b.dispatch k e).2 = { b with sessions } := by
  unfold dispatch
  cases b.directory.lookup? k with
  | none => exact ⟨b.sessions, rfl, rfl⟩
  | some place =>
    dsimp only
    cases b.sessions[place]? with
    | none => exact ⟨b.sessions, rfl, rfl⟩
    | some a => exact ⟨_, List.length_set, rfl⟩

/-- Whatever happens next, the directory goes on resolving the live keys and no others. -/
theorem Faithful.act? {m : Move} {b' : Switchboard} (f : Faithful (h, b))
    (made : b.act? m = some (d, b')) : Faithful (h ++ [d], b') := by
  -- Registering adds a live key, unregistering and clearing end some, and nothing else touches the directory.
  cases m with
  | register a =>
    cases made
    exact f.registered (by simp) (by simp)
  | reinstate place =>
    simp only [Switchboard.act?, Option.ite_none_right_eq_some, Option.some.injEq, Prod.mk.injEq] at made
    obtain ⟨there, rfl, rfl⟩ := made
    exact f.registered le_rfl there
  | unregister k =>
    cases made
    refine f.follow rfl rfl rfl fun k' => ?_
    by_cases same : k' = k
    · subst same
      simp [Deed.ends]
    · have other : (k == k') = false := beq_false_of_ne (Ne.symm same)
      simp [Deed.ends, other, Directory.lookup?_unregister_of_ne same]
  | clear =>
    cases made
    exact f.follow rfl rfl rfl fun k => rfl
  | emit k e =>
    obtain ⟨sessions, kept, eq⟩ := b.dispatch_frame k e
    simp only [Switchboard.act?, eq, Option.some.injEq, Prod.mk.injEq] at made
    obtain ⟨rfl, rfl⟩ := made
    exact f.follow rfl rfl kept fun k => rfl
  | steer place standing =>
    obtain ⟨a, -, same⟩ := Option.map_eq_some_iff.mp made
    obtain ⟨rfl, rfl⟩ := Prod.mk.inj same
    exact f.follow rfl rfl List.length_set fun k => rfl

theorem Faithful.proceed {p : List Deed × Switchboard} (f : Faithful p) (m : Move) :
    Faithful (Switchboard.proceed p m) := by
  unfold Switchboard.proceed
  cases made : p.2.act? m with
  | none => exact f
  | some done => exact f.act? made

theorem faithful_play (ms : List Move) : Faithful (play ms) := by
  induction ms using List.reverseRecOn with
  | nil =>
    refine ⟨rfl, ?_, ?_⟩
    · intro k place
      apply iff_of_false
      · intro found
        cases found
      · rintro ⟨early, late, none, -⟩
        simp [play] at none
    · intro k place found
      cases found
  | append_singleton ms m ih =>
    rw [play_concat]
    exact ih.proceed m

/-! ## Whom a key stands for -/

namespace Faithful

/-- The session of a live key is there, and it is the one that an event reaches and that is taken out. -/
theorem reaches (f : Faithful (h, b)) (live : Live h k place) :
    ∃ a, b.sessions[place]? = some a ∧ (b.unregister k).1 = some a ∧
      ∀ e, b.dispatch k e = (some (place, (a.listener.handle a.standing e).2),
        { b with sessions := b.sessions.set place
                   { a with standing := (a.listener.handle a.standing e).1 } }) := by
  have found : b.directory.lookup? k = some place := (f.live k place).mpr live
  have inside : place < b.sessions.length := f.placed k place found
  have there : b.sessions[place]? = some b.sessions[place] := List.getElem?_eq_getElem inside
  refine ⟨_, there, ?_, fun e => ?_⟩
  · simp [Switchboard.unregister, Switchboard.lookup?, found, there]
  · simp [dispatch, found, there]

theorem reaches_nobody (f : Faithful (h, b)) (dead : ∀ place, ¬ Live h k place) :
    (b.unregister k).1 = none ∧ ∀ e, b.dispatch k e = (none, b) := by
  have lost : b.directory.lookup? k = none := by
    rw [Option.eq_none_iff_forall_ne_some]
    exact fun place found => dead place ((f.live k place).mp found)
  refine ⟨?_, fun e => ?_⟩
  · simp [Switchboard.unregister, Switchboard.lookup?, lost]
  · simp [dispatch, lost]

theorem encard_live (f : Faithful (h, b)) :
    {k | ∃ place, Live h k place}.encard = b.directory.size := by
  have same : {k | ∃ place, Live h k place} = (b.directory.keys.toFinset : Set SessionKey) := by
    ext k
    simp [Directory.mem_keys_iff, Option.isSome_iff_exists, f.live]
  rw [same, Set.encard_coe_eq_coe_finsetCard,
    List.toFinset_card_of_nodup b.directory.keys_nodup, b.directory.length_keys]

end Faithful

/-- A key that was given out and has no session is not given out again, and so it never gets one. -/
theorem dead_of_dead {past : List Move} (out : k ∈ given (play past).1)
    (dead : ∀ place, ¬ Live (play past).1 k place) (later : List Move) :
    k ∈ given (play (past ++ later)).1 ∧ ∀ place, ¬ Live (play (past ++ later)).1 k place := by
  induction later using List.reverseRecOn with
  | nil => simpa using ⟨out, dead⟩
  | append_singleton later m ih =>
    rw [← List.append_assoc, play_concat]
    unfold proceed
    cases made : (play (past ++ later)).2.act? m with
    | none => exact ih
    | some done =>
      obtain ⟨d, b⟩ := done
      have out' : k ∈ given ((play (past ++ later)).1 ++ [d]) := by
        rw [given, List.filterMap_append]
        exact List.mem_append_left _ ih.1
      refine ⟨out', fun place live => ?_⟩
      rcases live_concat_iff.mp live with rfl | ⟨old, -⟩
      · -- The deed would give the key out a second time.
        have twice := ((faithful_play (past ++ later)).act? made).nodup
        rw [given, List.filterMap_append] at twice
        exact (List.nodup_append.mp twice).2.2 k ih.1 k (List.mem_singleton_self k) rfl
      · exact ih.2 place old

/-- After any run with fewer registrations than there are numbers of 64 bits, a clearing of the directory or not: no
key was given out twice, and its number fits into 64 bits. An event under a key reaches the session that was
registered under it, moves it as its listener says and no other session, as long as the key was neither taken out nor
cleared away since; otherwise it reaches nobody and changes nothing. What is taken out is the session of the key, if it
has one. The directory counts the live keys. And a key that has lost its session stays without one. -/
theorem dispatch_of_history (ms : List Move) (few : (given (play ms).1).length < 2 ^ 64) :
    let h := (play ms).1
    let b := (play ms).2
    (given h).Nodup ∧ (∀ k ∈ given h, k.number < 2 ^ 64) ∧
      (∀ k place, Live h k place →
        ∃ a, b.sessions[place]? = some a ∧ (b.unregister k).1 = some a ∧
          ∀ e, b.dispatch k e = (some (place, (a.listener.handle a.standing e).2),
            { b with sessions := b.sessions.set place
                       { a with standing := (a.listener.handle a.standing e).1 } })) ∧
      (∀ k, (∀ place, ¬ Live h k place) →
        (b.unregister k).1 = none ∧ ∀ e, b.dispatch k e = (none, b)) ∧
      {k | ∃ place, Live h k place}.encard = b.directory.size ∧
      ∀ past later k, ms = past ++ later → k ∈ given (play past).1 →
        (∀ place, ¬ Live (play past).1 k place) → ∀ place, ¬ Live h k place := by
  intro h b
  have f : Faithful (h, b) := faithful_play ms
  refine ⟨f.nodup, ?_, fun k place => f.reaches, fun k => f.reaches_nobody, f.encard_live, ?_⟩
  · intro k out
    -- The numbers start at zero, so the next one says how many keys were given out.
    have counted : b.directory.next = (given h).length := by
      rw [← List.length_range (n := b.directory.next), ← f.numbered, List.length_map]
    exact (f.number_lt out).trans (counted ▸ few)
  · rintro past later k rfl out dead
    exact (dead_of_dead out dead later).2

/-- The key of a session that was cleared away reaches nobody, although another session has come since. -/
theorem dispatch_of_history_cleared :
    let a : Attendance := ⟨⟨"sensor", [.connect], true⟩, default⟩
    let ms : List Move :=
      [.register a, .register a, .unregister ⟨0⟩, .reinstate 1, .clear, .register a, .emit ⟨1⟩ (.connect 0)]
    (given (play ms).1).length < 2 ^ 64 ∧ Live (play ms).1 ⟨3⟩ 2 ∧
      ∀ e, (play ms).2.dispatch ⟨1⟩ e = (none, (play ms).2) := by
  intro a ms
  have few : (given (play ms).1).length < 2 ^ 64 := by
    rw [show (given (play ms).1).length = 4 from rfl]
    decide
  have facts := dispatch_of_history ms few
  refine ⟨few, ((faithful_play ms).live _ _).mp rfl, (facts.2.2.2.1 ⟨1⟩ fun place live => ?_).2⟩
  exact nomatch ((faithful_play ms).live _ _).mpr live

end Switchboard

end BrokerSession
