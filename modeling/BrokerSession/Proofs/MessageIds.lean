import BrokerSession.Proofs.Network.Lives
import Mathlib.Data.List.Nodup
import Mathlib.Logic.Function.Iterate

/-!
# The numbers of messages

A client numbers what it sends from one to the size of its window, and then from one again. So the number at every place
of the sequence is known beforehand: it is one more than the remainder of the place by the window.

Both engines answer with these numbers, in their order. A request takes a number when it is accepted, unless it is a
publish that is sent once and forgotten. Nothing else that happens to an engine takes one, and what takes none is
answered with zero. The network engine starts again with every connection, in the window that the connection is opened
with; the loopback engine never does, and its window is the largest there is.

## Main definitions

* `PacketIds.numberAt` - the number at a place of the sequence
* `PacketIds.after` - the counter when as many numbers were given out
* `numbersOf` - the numbers with which a history answers
* `InSequence` - a history answers with the numbers of a window
* `Counts` - an engine whose counter has come as far as its history

## Main results

* `PacketIds.take_after` - the numbers that a counter gives out
* `Loopback.iterate_nextId` - the loopback engine counts in the largest window
* `Counts.of_life` - who counts in every step has answered in sequence
* `numbered_in_sequence` - the numbers of both engines
-/

namespace BrokerSession

/-! ## The sequence -/

namespace PacketIds

variable {window : UInt16} {j k n : Nat}

/-- The number at a place of the sequence in a window; the first place is zero. -/
def numberAt (window : UInt16) (k : Nat) : Nat := k % window.toNat + 1

/-- The counter of a window when as many numbers were given out. -/
def after (window : UInt16) (k : Nat) : PacketIds := ⟨UInt16.ofNat (k % window.toNat), window⟩

theorem toNat_pos (wide : 0 < window) : 0 < window.toNat := wide

theorem numberAt_pos : 0 < numberAt window k := Nat.succ_pos _

/-- A number is in the window. -/
theorem numberAt_le (wide : 0 < window) : numberAt window k ≤ window.toNat :=
  Nat.mod_lt _ (toNat_pos wide)

/-- A number fits two bytes. -/
theorem toNat_ofNat_numberAt (wide : 0 < window) : (UInt16.ofNat (numberAt window k)).toNat = numberAt window k := by
  have bound := window.toNat_lt_size
  have inside := numberAt_le (k := k) wide
  rw [UInt16.size] at bound
  rw [UInt16.toNat_ofNat']
  exact Nat.mod_eq_of_lt (by omega)

/-- The same number comes again after a whole window, and not before. -/
theorem numberAt_ne (before : j < k) (close : k < j + window.toNat) : numberAt window j ≠ numberAt window k := by
  intro same
  have remainders : j % window.toNat = k % window.toNat := Nat.succ.inj same
  have apart : (k - j) % window.toNat = 0 := Nat.sub_mod_eq_zero_of_mod_eq remainders.symm
  rw [Nat.mod_eq_of_lt (by omega)] at apart
  omega

@[simp] theorem after_zero (window : UInt16) : after window 0 = start window := by
  simp [after, start]

/-- The place behind another one has the next remainder, and behind the last of the window it is zero again. -/
theorem succ_mod (window : UInt16) (k : Nat) :
    (k + 1) % window.toNat = if numberAt window k = window.toNat then 0 else numberAt window k := by
  rw [← Nat.mod_add_mod, ← numberAt]
  split
  · rename_i last
    rw [last, Nat.mod_self]
  · rename_i more
    rcases Nat.eq_zero_or_pos window.toNat with none | wide
    · rw [none, Nat.mod_zero]
    · have inside : numberAt window k ≤ window.toNat := Nat.mod_lt _ wide
      exact Nat.mod_eq_of_lt (by omega)

/-- A counter gives out the number at its place, and goes on to the next place. -/
theorem next_after (wide : 0 < window) (k : Nat) :
    (after window k).next = (UInt16.ofNat (numberAt window k), after window (k + 1)) := by
  have given : UInt16.ofNat (k % window.toNat) + 1 = UInt16.ofNat (numberAt window k) :=
    (UInt16.ofNat_add _ 1).symm
  have last : UInt16.ofNat (numberAt window k) = window ↔ numberAt window k = window.toNat := by
    rw [← UInt16.toNat_inj, toNat_ofNat_numberAt wide]
  rw [next, after, given, after, succ_mod]
  simp only [last]
  split <;> rfl

theorem take_succ (n : Nat) (ids : PacketIds) :
    take (n + 1) ids = ((take n ids).1 ++ [(take n ids).2.next.1], (take n ids).2.next.2) := by
  simp [take, Nat.fold_succ]

/-- The numbers that a counter gives out next. -/
theorem take_after (wide : 0 < window) (n k : Nat) :
    take n (after window k) =
      ((List.range n).map fun j => UInt16.ofNat (numberAt window (k + j)), after window (k + n)) := by
  induction n with
  | zero => rfl
  | succ n ih => simp [take_succ, ih, next_after wide, List.range_succ, Nat.add_assoc]

/-- The numbers of a new counter. -/
theorem toNat_take_start (wide : 0 < window) (n : Nat) :
    (take n (start window)).1.map UInt16.toNat = (List.range n).map (numberAt window) := by
  rw [← after_zero, take_after wide, List.map_map]
  refine List.map_congr_left fun j _ => ?_
  simp [toNat_ofNat_numberAt wide]

/-- None of the numbers is zero, and as many as the window is wide are all different. -/
theorem nodup_take_start (wide : 0 < window) (n i : Nat) :
    0 ∉ (take n (start window)).1 ∧ (((take n (start window)).1.drop i).take window.toNat).Nodup := by
  constructor
  · intro zero
    have among : 0 ∈ (take n (start window)).1.map UInt16.toNat := List.mem_map_of_mem zero
    rw [toNat_take_start wide, List.mem_map] at among
    obtain ⟨j, -, none⟩ := among
    exact Nat.ne_of_gt numberAt_pos none
  · refine List.Nodup.of_map UInt16.toNat ?_
    rw [List.map_take, List.map_drop, toNat_take_start wide]
    refine List.pairwise_iff_getElem.mpr fun a b first second before => ?_
    simp only [List.getElem_take, List.getElem_drop, List.getElem_map, List.getElem_range]
    exact numberAt_ne (by omega) (by grind)

/-- A window has room for a number, whatever limit it is made for. -/
theorem ofLimit_pos (limit : UInt32) : 0 < ofLimit limit := by
  unfold ofLimit
  split
  · decide
  · rename_i usable
    obtain ⟨something, small⟩ := not_or.mp usable
    have bound : limit.toNat ≤ 65535 := UInt32.not_lt.mp small
    have some : limit.toNat ≠ 0 := fun zero => something (UInt32.toNat_inj.mp zero)
    rw [UInt16.lt_iff_toNat_lt, UInt32.toNat_toUInt16, UInt16.toNat_zero]
    omega

end PacketIds

namespace Loopback

open PacketIds (numberAt maxWindow)

/-- The last number of a loopback engine that has given out as many. -/
def lastNumber : Nat → MessageId
  | 0 => 0
  | k + 1 => UInt16.ofNat (numberAt maxWindow k)

/-- A loopback engine goes on as a counter of the largest window does. -/
theorem nextId_lastNumber (k : Nat) : nextId (lastNumber k) = lastNumber (k + 1) := by
  cases k with
  | zero => rfl
  | succ k =>
    have inside : numberAt maxWindow k ≤ 65535 := PacketIds.numberAt_le (by decide)
    have next : numberAt maxWindow (k + 1) = if numberAt maxWindow k = 65535 then 1 else numberAt maxWindow k + 1 := by
      have remainder := PacketIds.succ_mod maxWindow k
      rw [show maxWindow.toNat = 65535 from rfl] at remainder
      rw [numberAt, show maxWindow.toNat = 65535 from rfl, remainder]
      split <;> rfl
    have wraps : UInt16.ofNat (numberAt maxWindow k) + 1 = 0 ↔ numberAt maxWindow k = 65535 := by
      rw [← UInt16.toNat_inj, UInt16.toNat_add, PacketIds.toNat_ofNat_numberAt (by decide), UInt16.toNat_one,
        UInt16.toNat_zero]
      omega
    simp only [lastNumber, nextId, wraps, next]
    split
    · rfl
    · exact (UInt16.ofNat_add _ 1).symm

/-- The numbers of a loopback engine are those of the largest window. -/
theorem iterate_nextId (n : Nat) :
    (List.range n).map (fun k => nextId^[k + 1] 0) = (PacketIds.take n (.start maxWindow)).1 := by
  have reached (k : Nat) : nextId^[k] 0 = lastNumber k := by
    induction k with
    | zero => rfl
    | succ k ih => rw [Function.iterate_succ_apply', ih, nextId_lastNumber]
  rw [← PacketIds.after_zero, PacketIds.take_after (by decide)]
  refine List.map_congr_left fun k _ => ?_
  simp only [reached, lastNumber, Nat.zero_add]

end Loopback

/-! ## Numbers in a history -/

/-- Whether an accepted command takes a number. -/
def Command.isNumbered : Command → Bool
  | publish _ _ qos _ => qos != .atMostOnce
  | subscribe .. => true
  | unsubscribe _ => true
  | _ => false

section

variable {σ ι : Type} {h : List (Incident ι)} {x : Incident ι} {willing : Command → Bool} {window : UInt16}

/-- The number that was taken in an incident. An engine may not be willing to carry a command out. -/
def Incident.number? (willing : Command → Bool) : Incident ι → Option MessageId
  | answered c r => if willing c && r.status == .success && c.isNumbered then some r.id else none
  | _ => none

/-- The numbers that were taken in a history. -/
def numbersOf (willing : Command → Bool) (h : List (Incident ι)) : List MessageId :=
  h.filterMap (Incident.number? willing)

/-- The numbers that were taken are those of a window, and who took none was answered with zero. -/
structure InSequence (window : UInt16) (willing : Command → Bool) (h : List (Incident ι)) : Prop where
  places : ∀ j id, (numbersOf willing h)[j]? = some id → id.toNat = PacketIds.numberAt window j
  others : ∀ c r, .answered c r ∈ h → (.answered c r : Incident ι).number? willing = none → r.id = 0

theorem numbersOf_concat : numbersOf willing (h ++ [x]) = numbersOf willing h ++ (x.number? willing).toList := by
  cases taken : x.number? willing <;> simp [numbersOf, taken]

/-- What an incident does to the sequence: it takes the next number, or it takes none. -/
inductive Incident.Follows (window : UInt16) (willing : Command → Bool) (x : Incident ι) : Nat → Nat → Prop
  | takes {k : Nat} (id : MessageId) (taken : x.number? willing = some id)
    (next : id.toNat = PacketIds.numberAt window k) : Follows window willing x k (k + 1)
  | passes {k : Nat} (none : x.number? willing = none) (zero : ∀ c r, x = .answered c r → r.id = 0) :
    Follows window willing x k k

/-- A history in sequence stays so when one thing more happens that follows it. -/
theorem InSequence.concat {k : Nat} (sequence : InSequence window willing h)
    (follows : x.Follows window willing (numbersOf willing h).length k) :
    InSequence window willing (h ++ [x]) ∧ (numbersOf willing (h ++ [x])).length = k := by
  cases follows with
  | takes id taken next =>
    have numbers : numbersOf willing (h ++ [x]) = numbersOf willing h ++ [id] := by simp [numbersOf_concat, taken]
    refine ⟨⟨fun j given there => ?_, fun c r among untaken => ?_⟩, by simp [numbers]⟩
    · rw [numbers] at there
      rcases Nat.lt_or_ge j (numbersOf willing h).length with before | last
      · rw [List.getElem?_append_left before] at there
        exact sequence.places j given there
      · obtain ⟨here, rfl⟩ : j = (numbersOf willing h).length ∧ id = given := by
          rw [List.getElem?_append_right last, List.getElem?_singleton] at there
          simp only [Option.ite_none_right_eq_some, Option.some.injEq] at there
          exact ⟨by omega, there.2⟩
        rw [here, next]
    · rcases List.mem_append.mp among with before | now
      · exact sequence.others c r before untaken
      · rw [List.mem_singleton.mp now, taken] at untaken
        cases untaken
  | passes none zero =>
    have numbers : numbersOf willing (h ++ [x]) = numbersOf willing h := by simp [numbersOf_concat, none]
    refine ⟨⟨numbers ▸ sequence.places, fun c r among untaken => ?_⟩, by rw [numbers]⟩
    rcases List.mem_append.mp among with before | now
    · exact sequence.others c r before untaken
    · exact zero c r (List.mem_singleton.mp now).symm

/-- An engine whose counter has come to a place, in every step that it takes. Some things may be known not to happen. -/
structure Counts (e : Engine σ) (aside : Option Command → σ → ι → σ → Prop) (window : UInt16)
    (willing : Command → Bool) (happens : Incident ι → Prop) (stands : σ → Nat → Prop) : Prop where
  set : ∀ s k x, stands s k → stands (e.set s x).2 k
  attach : ∀ s k, stands s k → stands (e.attach s) k
  hear : ∀ s k now c, stands s k → stands (e.call s now c) k
  answer : ∀ s u k now c r, stands s k → e.finish s now c = some (r, u) → happens (.answered c r) →
    ∃ j, (.answered c r : Incident ι).Follows window willing k j ∧ stands u j
  aside : ∀ busy s u k i, stands s k → aside busy s i u → stands u k

/-- An engine that counts in every step has answered in sequence. -/
theorem Counts.of_life {e : Engine σ} {aside : Option Command → σ → ι → σ → Prop} {new s : σ}
    {busy : Option Command} {happens : Incident ι → Prop} {stands : σ → Nat → Prop}
    (counts : Counts e aside window willing happens stands) (first : stands new 0)
    (life : e.Life aside new h busy s) (happened : ∀ x ∈ h, happens x) :
    InSequence window willing h ∧ stands s (numbersOf willing h).length := by
  -- What is no answer takes no number, so the counter has to stay where it is.
  have silent {h : List (Incident ι)} {x : Incident ι} (sequence : InSequence window willing h)
      (none : x.number? willing = none) (other : ∀ c r, x ≠ .answered c r) :=
    sequence.concat (x := x) (.passes none fun c r same => absurd same (other c r))
  induction life with
  | begin => exact ⟨⟨by simp [numbersOf], by simp⟩, first⟩
  | set x life ih =>
    obtain ⟨sequence, stand⟩ := ih fun y among => happened y (List.mem_append_left _ among)
    obtain ⟨longer, length⟩ := silent sequence (x := .set x) rfl fun _ _ same => by cases same
    exact ⟨longer, length ▸ counts.set _ _ x stand⟩
  | attach life ih =>
    obtain ⟨sequence, stand⟩ := ih fun y among => happened y (List.mem_append_left _ among)
    obtain ⟨longer, length⟩ := silent sequence (x := .attached) rfl fun _ _ same => by cases same
    exact ⟨longer, length ▸ counts.attach _ _ stand⟩
  | hear now c life ih =>
    obtain ⟨sequence, stand⟩ := ih fun y among => happened y (List.mem_append_left _ among)
    obtain ⟨longer, length⟩ := silent sequence (x := .heard c) rfl fun _ _ same => by cases same
    exact ⟨longer, length ▸ counts.hear _ _ now c stand⟩
  | @answer h s u now c r life done ih =>
    obtain ⟨sequence, stand⟩ := ih fun y among => happened y (List.mem_append_left _ among)
    obtain ⟨j, follows, stand⟩ := counts.answer _ _ _ now c r stand done (happened _ (by simp))
    obtain ⟨longer, length⟩ := sequence.concat follows
    exact ⟨longer, length ▸ stand⟩
  | @aside h busy s u i life step ih =>
    obtain ⟨sequence, stand⟩ := ih fun y among => happened y (List.mem_append_left _ among)
    obtain ⟨longer, length⟩ := silent sequence (x := .aside i) rfl fun _ _ same => by cases same
    exact ⟨longer, length ▸ counts.aside _ _ _ _ i stand step⟩

end

/-! ## The network engine -/

namespace NetworkEngine

variable {n : Network} {s u : NetworkEngine} {now : Nat} {c : Command} {r : Reply}

/-- An answer to a request takes the next number if the command is one that takes numbers. -/
theorem ids_of_acknowledge {q : Request} (hands : c.request? = some q) (s : NetworkEngine) :
    if c.isNumbered then (s.acknowledge c).1.id = s.ids.next.1 ∧ (s.acknowledge c).2.ids = s.ids.next.2
    else (s.acknowledge c).1.id = 0 ∧ (s.acknowledge c).2.ids = s.ids := by
  cases c with
  | publish topic payload qos retain =>
    by_cases once : qos = .atMostOnce <;> simp [Command.isNumbered, acknowledge, once, numbered]
  | subscribe | unsubscribe | disconnect => exact ⟨rfl, rfl⟩
  | _ => cases hands

/-- Whatever an engine carries out, but for opening a connection, takes the next number or none. -/
theorem follows_of_finish {ι : Type} {window : UInt16} {k : Nat} (wide : 0 < window)
    (counter : s.ids = .after window k) (done : s.finish n now c = some (r, u))
    (unopened : (.answered c r : Incident ι).opens = false) :
    ∃ j, (.answered c r : Incident ι).Follows window (fun _ => true) k j ∧ u.ids = .after window j := by
  have passes (zero : r.id = 0) (none : (.answered c r : Incident ι).number? (fun _ => true) = none)
      (same : u.ids = s.ids) :
      ∃ j, (.answered c r : Incident ι).Follows window (fun _ => true) k j ∧ u.ids = .after window j :=
    ⟨k, .passes none fun c' r' eq => by cases eq; exact zero, same.trans counter⟩
  -- Only a request that is accepted and numbered takes a number; everything else passes.
  cases finishes_of_finish done with
  | @asked _ q _ _ hands handled =>
    rw [finish_of_request hands] at done
    split at done
    · obtain ⟨answer, -⟩ := acknowledge_frame { s with requests := s.requests ++ [q] } c
      have ids := ids_of_acknowledge hands { s with requests := s.requests ++ [q] }
      rw [Option.some.inj done] at answer ids
      dsimp only at answer ids
      cases takes : c.isNumbered with
      | true =>
        rw [takes, if_pos rfl, counter, PacketIds.next_after wide] at ids
        refine ⟨k + 1, .takes r.id (by simp [Incident.number?, answer, takes]) ?_, ids.2⟩
        rw [ids.1, PacketIds.toNat_ofNat_numberAt wide]
      | false =>
        rw [takes, if_neg Bool.false_ne_true] at ids
        exact passes ids.1 (by simp [Incident.number?, takes]) ids.2
    · rename_i fails
      cases done
      exact passes rfl (by simp [Incident.number?, Reply.ofStatus, fails]) rfl
  | undialed asks wrong =>
    have fails := status_of_undialed wrong
    exact passes rfl (by simp [Incident.number?, Reply.ofStatus, fails]) rfl
  | opened asks right back => simp [Incident.opens, asks, Reply.ofStatus] at unopened
  | running => exact passes rfl rfl rfl
  | started back | loopless back | stopped back | destroyed back =>
    obtain ⟨-, rfl⟩ := eq_of_recover? back
    exact passes rfl rfl rfl

/-- Opening a connection starts a counter with the window of the connection. -/
theorem ids_of_opened (asks : c.asks = true) (done : s.finish n now c = some (r, u)) (fine : r.status = .success) :
    ∃ d, s.dial? = .ok d ∧ d.window = s.settings.window.getD defaultWindow ∧ u.ids = .start d.window := by
  cases finishes_of_finish done with
  | asked hands handled => simp [Command.asks_of_request? hands] at asks
  | undialed asks wrong =>
    obtain rfl := status_of_undialed wrong
    cases fine
  | opened asks right back =>
    refine ⟨_, right, ?_, rfl⟩
    unfold dial? at right
    split at right
    · cases right
    · obtain ⟨i, -, rfl⟩ := NetworkSettings.eq_of_dial right
      rfl
  | running | started | loopless | stopped | destroyed => cases asks

/-- The window that an engine was given has room. -/
def Roomy (s : NetworkEngine) : Prop := ∀ window, s.settings.window = some window → 0 < window

theorem Roomy.set {fs : Files} (roomy : s.Roomy) (x : Setting) : (s.set fs x).2.Roomy := by
  intro window given
  unfold NetworkEngine.set NetworkSettings.set at given
  cases x with
  | publish p =>
    obtain rfl := Option.some.inj given
    exact PacketIds.ofLimit_pos _
  | _ => grind [Roomy]

theorem settings_of_finish (done : s.finish n now c = some (r, u)) : u.settings = s.settings := by
  cases finishes_of_finish done with
  | asked hands handled => cases handled <;> rfl
  | undialed | running => rfl
  | opened _ _ back | started back | loopless back | stopped back | destroyed back =>
    obtain ⟨-, rfl⟩ := eq_of_recover? back
    rfl

end NetworkEngine

namespace Workshop

variable {fs : Files} {n : Network} {h : List (Incident LoopIncident)} {busy : Option Command} {w w' : Workshop}

/-- What happens to loops leaves the counter and the settings of the engine as they are. -/
theorem ids_of_aside {i : LoopIncident} (happened : w.Aside n busy i w') :
    w'.engine.ids = w.engine.ids ∧ w'.engine.settings = w.engine.settings := by
  cases happened with
  | turned held taken =>
    obtain ⟨t', extra, rfl, -, -⟩ := NetworkEngine.turns_of_running held taken
    exact ⟨rfl, rfl⟩
  | strayTurned | took => exact ⟨rfl, rfl⟩
  | brokeDown held broken =>
    obtain rfl := NetworkEngine.eq_of_breakDown? held broken
    exact ⟨rfl, rfl⟩
  | abandoned waits still held cut =>
    obtain rfl := NetworkEngine.eq_of_abandon? held cut
    exact ⟨rfl, rfl⟩

/-- An engine counts as long as it opens no connection. -/
theorem counts {window : UInt16} (wide : 0 < window) :
    Counts (behaviour fs n) (Aside n) window (fun _ => true) (fun x => x.opens = false)
      fun w k => w.engine.ids = .after window k where
  set w k x stands := stands
  attach w k stands := stands
  hear w k now c stands := by
    obtain ⟨grace, stopping, eq⟩ := NetworkEngine.call_frame w.engine now c
    exact (congrArg NetworkEngine.ids eq).trans stands
  answer w u k now c r stands done unopened := by
    obtain ⟨⟨r', v⟩, finished, eq⟩ := Option.map_eq_some_iff.mp done
    cases eq
    exact NetworkEngine.follows_of_finish wide stands finished unopened
  aside busy w u k i stands happened := (ids_of_aside happened).1.trans stands

/-- The window that an engine was given has room, whatever has happened. -/
theorem roomy_of_life (life : Lives fs n h busy w) : w.engine.Roomy := by
  induction life with
  | begin => exact nofun
  | set x life roomy => exact roomy.set x
  | attach life roomy => exact roomy
  | @hear h w now c life roomy =>
    obtain ⟨grace, stopping, eq⟩ := NetworkEngine.call_frame w.engine now c
    have same : (w.engine.call now c).settings = w.engine.settings := by rw [eq]
    exact fun window given => roomy window (same ▸ given)
  | answer life done roomy =>
    obtain ⟨⟨r', v⟩, finished, eq⟩ := Option.map_eq_some_iff.mp done
    cases eq
    exact fun window given => roomy window (NetworkEngine.settings_of_finish finished ▸ given)
  | aside life happened roomy => exact fun window given => roomy window ((ids_of_aside happened).2 ▸ given)

/-- A connection is opened with a window that has room, and from then to the next one the engine answers in sequence. -/
theorem inSequence_of_opened {now : Nat} {c : Command} {r : Reply} {u : NetworkEngine} (life : Lives fs n h busy w)
    (asks : c.asks = true) (done : w.engine.finish n now c = some (r, u)) (fine : r.status = .success) :
    ∃ d, w.engine.dial? = .ok d ∧ 0 < d.window ∧
      ∀ later busy v, (behaviour fs n).Life (Aside n) (w.become u) later busy v → openings later = 0 →
        InSequence d.window (fun _ => true) later := by
  obtain ⟨d, dials, window, ids⟩ := NetworkEngine.ids_of_opened asks done fine
  have wide : 0 < d.window := by
    rw [window]
    cases given : w.engine.settings.window with
    | none => decide
    | some window => exact roomy_of_life life window given
  refine ⟨d, dials, wide, fun later busy v goes unopened => ?_⟩
  have first : (w.become u).engine.ids = .after d.window 0 := by
    rw [PacketIds.after_zero]
    exact ids
  refine ((counts wide).of_life first goes fun x among => ?_).1
  have none : ∀ x ∈ later, ¬ x.opens = true := List.countP_eq_zero.mp unopened
  simpa using none x among

end Workshop

/-! ## The loopback engine -/

namespace Loopback

variable {s u new : Loopback} {h : List (Incident (List Report ⊕ Stir))} {busy : Option Command} {c : Command}
  {r : Reply}

/-- Whether an engine is willing to carry a command out. -/
def isWilling (s : Loopback) (c : Command) : Bool := (s.refusal? (.command c)).isNone

@[simp] theorem emit_lastId (s : Loopback) (event : EngineEvent) : (s.emit event).lastId = s.lastId := by
  unfold emit send
  split <;> rfl

/-- A command that is carried out takes the next number or none. -/
theorem lastId_of_perform (s : Loopback) (c : Command) :
    if (s.perform c).1.status == .success && c.isNumbered then
      (s.perform c).1.id = nextId s.lastId ∧ (s.perform c).2.lastId = nextId s.lastId
    else (s.perform c).1.id = 0 ∧ (s.perform c).2.lastId = s.lastId := by
  cases c <;> simp only [perform, answerConnect, whenConnected, publish, subscribe, unsubscribe, startLoop] <;>
    grind [emit_lastId, Command.isNumbered, Reply.ofStatus]

@[simp] theorem call_lastId (s : Loopback) (c : Command) : (s.call c).lastId = s.lastId := by
  cases c <;> simp only [call, send, record] <;> grind

theorem lastId_of_aside {i : List Report ⊕ Stir} (happened : s.Aside busy i u) : u.lastId = s.lastId := by
  cases happened with
  | delivered taken =>
    unfold deliver at taken
    split at taken <;> cases taken <;> rfl
  | stirred stir => cases stir <;> simp [Stir.apply, Loopback.inject, dropConnection]

theorem isNumbered_of_awaitsLoop (waits : awaitsLoop c = true) : c.isNumbered = false := by
  cases c <;> first | rfl | cases waits

/-- A loopback engine counts in the largest window, whatever happens to it. -/
theorem counts (new : Loopback) :
    Counts engine Aside PacketIds.maxWindow new.isWilling (fun _ => True)
      fun s k => s.failures = new.failures ∧ s.lastId = lastNumber k where
  set s k x stands := stands
  attach s k stands := stands
  hear s k now c := fun ⟨failures, last⟩ => ⟨(call_failures s c).trans failures, (call_lastId s c).trans last⟩
  answer s u k now c r := by
    rintro ⟨failures, last⟩ done -
    have willing : new.isWilling c = (s.refusal? (.command c)).isNone := by
      rw [isWilling, Loopback.refusal?, Loopback.refusal?, failures]
    have kept : u.failures = new.failures := (failures_of_finish done).trans failures
    -- Whether a command was carried out at once or has waited for a loop to end, it has taken a number as it should.
    have carriedOut (v : Loopback) (same : v.lastId = s.lastId) (performed : (r, u) = v.perform c)
        (may : c.isNumbered = true → new.isWilling c = true) :
        ∃ j, (.answered c r : Incident (List Report ⊕ Stir)).Follows PacketIds.maxWindow new.isWilling k j ∧
          u.failures = new.failures ∧ u.lastId = lastNumber j := by
      have numbers := lastId_of_perform v c
      rw [← performed, same, last, nextId_lastNumber] at numbers
      cases takes : (r.status == .success && c.isNumbered) with
      | true =>
        rw [takes, if_pos rfl] at numbers
        obtain ⟨fine, numbered⟩ : r.status = .success ∧ c.isNumbered = true := by simpa using takes
        refine ⟨k + 1, .takes r.id (by simp [Incident.number?, fine, numbered, may]) ?_, kept, numbers.2⟩
        rw [numbers.1]
        exact PacketIds.toNat_ofNat_numberAt (by decide)
      | false =>
        rw [takes, if_neg Bool.false_ne_true] at numbers
        have none : (.answered c r : Incident (List Report ⊕ Stir)).number? new.isWilling = none := by
          simp [Incident.number?, Bool.and_assoc, takes]
        exact ⟨k, .passes none fun c' r' eq => by cases eq; exact numbers.1, kept, numbers.2⟩
    rcases finish_eq_some done with
      ⟨status, refused, -, rfl, rfl⟩ | ⟨-, unrefused, performed⟩ | ⟨waits, -, v, collected, performed⟩
    · have none : (.answered c (.ofStatus status) : Incident (List Report ⊕ Stir)).number? new.isWilling = none := by
        simp [Incident.number?, willing, refused]
      exact ⟨k, .passes none fun c' r' eq => by cases eq; rfl, kept, last⟩
    · exact carriedOut s rfl performed fun _ => by simp [willing, unrefused]
    · obtain ⟨-, rfl⟩ := collect?_eq_some_iff.mp collected
      refine carriedOut _ (by split <;> rfl) performed fun numbered => ?_
      simp [isNumbered_of_awaitsLoop waits] at numbered
  aside busy s u k i stands happened := by
    obtain ⟨failures, last⟩ := stands
    refine ⟨?_, (lastId_of_aside happened).trans last⟩
    cases happened with
    | delivered taken => exact (connected_of_deliver taken).2.trans failures
    | stirred stir => exact (stir.apply_failures _).trans failures

end Loopback

/-! ## Both engines -/

/-- The numbers of a window are one more than the remainders of their places, so that none is zero, and as many as the
window is wide are all different; and the window for a limit is one of 1 to 65535. The numbers of a loopback engine are
those of the largest window.

From one connection to the next a network engine answers the requests that it accepts, and that are not sent once and
forgotten, with the numbers of the window that the connection was opened with, each with the next one. A loopback engine
does so over its whole life, with the numbers of the largest window. All that is accepted without a number, or refused,
is answered with zero and takes no number. -/
theorem numbered_in_sequence :
    (∀ window n, 0 < window →
      (PacketIds.take n (.start window)).1.map UInt16.toNat = (List.range n).map fun k => k % window.toNat + 1) ∧
    (∀ window n i, 0 < window →
      0 ∉ (PacketIds.take n (.start window)).1 ∧
        (((PacketIds.take n (.start window)).1.drop i).take window.toNat).Nodup) ∧
    (∀ limit, 1 ≤ (PacketIds.ofLimit limit).toNat ∧ (PacketIds.ofLimit limit).toNat ≤ 65535) ∧
    (∀ n, (List.range n).map (fun k => Loopback.nextId^[k + 1] 0) =
      (PacketIds.take n (.start PacketIds.maxWindow)).1) ∧
    (∀ fs n h busy w now c r u, Workshop.Lives fs n h busy w → c.asks = true →
      w.engine.finish n now c = some (r, u) → r.status = .success →
      ∃ d, w.engine.dial? = .ok d ∧ 0 < d.window ∧
        ∀ later busy v, (Workshop.behaviour fs n).Life (Workshop.Aside n) (w.become u) later busy v →
          openings later = 0 → InSequence d.window (fun _ => true) later) ∧
    ∀ failures delays code h busy s, Loopback.Lives (.fresh failures delays code) h busy s →
      InSequence PacketIds.maxWindow s.isWilling h := by
  refine ⟨fun window n wide => PacketIds.toNat_take_start wide n,
    fun window n i wide => PacketIds.nodup_take_start wide n i, fun limit => ?_, Loopback.iterate_nextId,
    fun fs n h busy w now c r u => Workshop.inSequence_of_opened, fun failures delays code h busy s life => ?_⟩
  · have bound := (PacketIds.ofLimit limit).toNat_lt_size
    rw [UInt16.size] at bound
    exact ⟨PacketIds.ofLimit_pos limit, by omega⟩
  · have same : s.isWilling = (Loopback.fresh failures delays code).isWilling := by
      funext c
      rw [Loopback.isWilling, Loopback.isWilling, Loopback.refusal?, Loopback.refusal?, Loopback.failures_of_life life]
    rw [same]
    exact ((Loopback.counts _).of_life ⟨rfl, rfl⟩ life fun _ _ => trivial).1

/-- An engine that was given a window of two publishes twice, once without a number, subscribes, and ends the
subscription. A loopback engine that is made to refuse subscriptions, with a success, subscribes and then publishes. -/
theorem numbered_in_sequence_narrow :
    let narrow : NetworkEngine := { Workshop.joinedEngine with
      settings := { Workshop.joinedEngine.settings with window := some 2 }, ids := .start 2 }
    (PacketIds.take 5 (.start 3)).1.map UInt16.toNat = [1, 2, 3, 1, 2] ∧
      (((PacketIds.take 9 (.start 3)).1.drop 2).take 3).Nodup ∧
      (∃ later v,
        (Workshop.behaviour .empty .unreachable).Life (Workshop.Aside .unreachable) ⟨narrow, []⟩ later none v ∧
        numbersOf (fun _ => true) later = [1, 2, 1] ∧ InSequence 2 (fun _ => true) later) ∧
      ∃ h s, Loopback.Lives (.fresh [("subscribe", .success)] [] 0) h none s ∧ numbersOf s.isWilling h = [1] ∧
        InSequence PacketIds.maxWindow s.isWilling h := by
  intro narrow
  obtain ⟨places, distinct, -, -, network, loopback⟩ := numbered_in_sequence
  refine ⟨places 3 5 (by decide), (distinct 3 9 2 (by decide)).2, ?_, ?_⟩
  · let connect : Command := .connect "broker" 1883 60
    have given : Workshop.Lives .empty .unreachable [.set (.identity "sensor" true .v311), .set (.publish ⟨2, 0⟩),
        .attached, .heard connect] (some connect) _ :=
      (((Engine.Life.begin.set (.identity "sensor" true .v311)).set (.publish ⟨2, 0⟩)).attach).hear 0 connect
    obtain ⟨d, dials, -, sequence⟩ := network _ _ _ _ _ 0 connect (.ofStatus .success) _ given rfl rfl rfl
    cases dials
    have begun : (Workshop.behaviour .empty .unreachable).Life (Workshop.Aside .unreachable) ⟨narrow, []⟩ [] none
      ⟨narrow, []⟩ := .begin
    have published := begun.exchange 0 (.publish "news" .empty .atLeastOnce false) rfl
    have goes := ((published.exchange 0 (.publish "news" .empty .atMostOnce false) rfl).exchange 0
      (.subscribe ["news"] .atMostOnce) rfl).exchange 0 (.unsubscribe "news") rfl
    exact ⟨_, _, goes, rfl, sequence _ _ _ goes rfl⟩
  · have connected : Loopback.Lives (.fresh [("subscribe", .success)] [] 0) _ none _ :=
      Engine.Life.begin.exchange 0 (.connect "broker" 1883 60) rfl
    have goes := (connected.exchange 0 (.subscribe ["news"] .atMostOnce) rfl).exchange 0
      (.publish "news" .empty .exactlyOnce false) rfl
    exact ⟨_, _, goes, rfl, loopback _ _ _ _ _ _ goes⟩

end BrokerSession
