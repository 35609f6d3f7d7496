import BrokerSession.Proofs.Lives
import BrokerSession.Proofs.Network.Commands
import BrokerSession.Proofs.Network.Turns

/-!
# One event loop, and the client that it was made with

A network engine has a client and an event loop, and the loop is somewhere: it lies idle, it runs, or it is gone. Every
way from one place to another has exits of its own, as a loop that is to end may do so by itself, break down, or not end
at all and be cut off. Whatever happens, there is one loop at most, and it was opened together with the client.

A loop runs by itself. If the engine let go of it without waiting for its end, it would go on without the engine, still
taking requests and telling about them. Such a loop is called a stray, and there are none.

## Main definitions

* `Workshop` - an engine with its strays
* `LoopIncident` - what happens to an event loop
* `requestsOf`, `takenBy` - the requests that were accepted for a loop, and those that it has taken
* `NetworkEngine.Matched` - the loop belongs to the client
* `Workshop.Paired` - the engine is matched with its history

## Main results

* `Workshop.Paired.of_life` - every engine is, whatever has happened to it
* `Workshop.one_loop` - there is one loop, it belongs to the client, and it alone serves it
-/

namespace BrokerSession

/-! ## Event loops at work -/

namespace NetworkEngine

/-- The running loop that an engine does not hold any more when it has become another. -/
def strayed (s u : NetworkEngine) : List IoTask :=
  s.task.toList.filter fun t => !t.finished && !u.task.any fun t' => t'.number == t.number

end NetworkEngine

/-- An engine, and the loops that run without it. -/
structure Workshop where
  engine : NetworkEngine
  strays : List IoTask

namespace Workshop

/-- All the loops that were started and not taken back. -/
def tasks (w : Workshop) : List IoTask := w.engine.task.toList ++ w.strays

/-- The workshop when its engine has become another one. -/
def become (w : Workshop) (u : NetworkEngine) : Workshop := ⟨u, w.strays ++ w.engine.strayed u⟩

/-- A new engine. -/
def fresh : Workshop := ⟨.fresh, []⟩

/-- The behaviour of the engine, with an eye on the loops. -/
def behaviour (fs : Files) (n : Network) : Engine Workshop :=
  let e := NetworkEngine.engine fs n
  { set := fun w x => ((e.set w.engine x).1, w.become (e.set w.engine x).2)
    attach := fun w => w.become (e.attach w.engine)
    call := fun w now c => w.become (e.call w.engine now c)
    pause := fun w => e.pause w.engine
    finish := fun w now c => (e.finish w.engine now c).map fun (r, u) => (r, w.become u)
    deliver := fun w now => (e.deliver w.engine now).map fun (reports, u) => (reports, w.become u)
    wake? := fun w => e.wake? w.engine
    pending := fun w => e.pending w.engine
    release := fun w => w.become (e.release w.engine) }

end Workshop

/-- What happens to the event loop with a number. -/
inductive LoopIncident where
  | turned (number : Nat) (turn : LoopTurn) (reports : List Report)
  | took (number : Nat) (requests : List Request)
  | brokeDown (number : Nat)
  /-- It was told to stop and did not, and nobody waits for it any more. -/
  | abandoned (number : Nat)

/-- The loop that an incident is about. -/
def LoopIncident.number : LoopIncident → Nat
  | turned number .. => number
  | took number _ => number
  | brokeDown number => number
  | abandoned number => number

/-- What may happen to the loops of a workshop. -/
inductive Workshop.Aside (n : Network) (busy : Option Command) (w : Workshop) : LoopIncident → Workshop → Prop
  | turned {now : Nat} {t : IoTask} {turn : LoopTurn} {reports : List Report} {u : NetworkEngine}
    (held : w.engine.task = some t) (taken : w.engine.turn? n now turn = some (reports, u)) :
    Aside n busy w (.turned t.number turn reports) { w with engine := u }
  | strayTurned {now : Nat} {before after : List IoTask} {t t' : IoTask} {turn : LoopTurn} {extra : List Report}
    (among : w.strays = before ++ t :: after) (turns : t.Turns n now turn extra t') :
    Aside n busy w (.turned t.number turn (w.engine.report (turn.outcome?.bind Outcome.event?) ++ extra))
      { w with strays := before ++ t' :: after }
  /-- A loop takes some of the requests that wait for it: those that were handed in at its client. -/
  | took {t : IoTask} {taken rest : List Request} (among : t ∈ w.tasks) (runs : t.finished = false)
    (own : w.engine.client = some t.number) (waiting : w.engine.requests = taken ++ rest) :
    Aside n busy w (.took t.number taken) { w with engine := { w.engine with requests := rest } }
  | brokeDown {t : IoTask} {u : NetworkEngine} (held : w.engine.task = some t) (broken : w.engine.breakDown? = some u) :
    Aside n busy w (.brokeDown t.number) { w with engine := u }
  /-- Only while a command waits for the end of a loop is it cut off. -/
  | abandoned {now : Nat} {c : Command} {t : IoTask} {u : NetworkEngine} (waits : busy = some c)
    (still : w.engine.finish n now c = none) (held : w.engine.task = some t) (cut : w.engine.abandon? = some u) :
    Aside n busy w (.abandoned t.number) { w with engine := u }

/-- The lives of a network engine, over a tree of files and a network. -/
abbrev Workshop.Lives (fs : Files) (n : Network) : List (Incident LoopIncident) → Option Command → Workshop → Prop :=
  (behaviour fs n).Life (Aside n) .fresh

/-! ## Requests in a history -/

/-- The request that was accepted in an incident. -/
def Incident.accepted? {ι : Type} : Incident ι → Option Request
  | answered c r => if r.status = .success then c.request? else none
  | _ => none

/-- The part of a history between two openings: after as many as given, and before the next one. -/
def during {ι : Type} : Nat → List (Incident ι) → List (Incident ι)
  | _, [] => []
  | 0, x :: h => if x.opens then [] else x :: during 0 h
  | k + 1, x :: h => during (if x.opens then k else k + 1) h

/-- The requests that were accepted for a loop: those from when it was opened to when the next one was. -/
def requestsOf {ι : Type} (number : Nat) (h : List (Incident ι)) : List Request :=
  (during (number + 1) h).filterMap Incident.accepted?

/-- The requests that a loop has taken. -/
def takenBy (number : Nat) (h : List (Incident LoopIncident)) : List Request :=
  h.flatMap fun
    | .aside (.took k requests) => if k = number then requests else []
    | _ => []

section

variable {ι : Type} {h : List (Incident ι)} {x : Incident ι} {k : Nat}

theorem openings_cons (h : List (Incident ι)) (x : Incident ι) :
    openings (x :: h) = openings h + if x.opens then 1 else 0 := by
  simp [openings, List.countP_cons]

/-- What happens next belongs to the part that the history has come to, unless it begins another one. -/
theorem during_concat :
    during k (h ++ [x]) = during k h ++ if openings h = k ∧ x.opens = false then [x] else [] := by
  -- The history is read from its beginning, and every opening counts the number down by one.
  induction h generalizing k with
  | nil => cases k <;> cases opened : x.opens <;> simp [during, openings, opened]
  | cons y h ih => cases k <;> cases opened : y.opens <;> simp [during, openings_cons, opened, ih]

/-- A connection is opened without a request. -/
theorem Incident.accepted?_of_opens (opened : x.opens = true) : x.accepted? = none := by
  cases x with
  | answered c r => cases c <;> simp_all [opens, accepted?, Command.asks, Command.request?]
  | _ => rfl

/-- What is accepted is accepted for the loop that was opened last. -/
theorem requestsOf_concat :
    requestsOf k (h ++ [x]) = requestsOf k h ++ if openings h = k + 1 then x.accepted?.toList else [] := by
  rw [requestsOf, during_concat, List.filterMap_append]
  cases opened : x.opens with
  | true => simp [requestsOf, x.accepted?_of_opens opened]
  | false => by_cases now : openings h = k + 1 <;> cases given : x.accepted? <;> simp [requestsOf, now, given]

end

@[simp] theorem takenBy_append (k : Nat) (h late : List (Incident LoopIncident)) :
    takenBy k (h ++ late) = takenBy k h ++ takenBy k late :=
  List.flatMap_append

/-! ## The loop and the client -/

namespace NetworkEngine

variable {s u : NetworkEngine} {c : Command} {r : Reply} {n : Network} {now : Nat}

/-- Of what belongs together. -/
def pairing (s : NetworkEngine) : Option Nat × Option Nat × Option Nat × Nat :=
  (s.client, s.idle, s.task.map IoTask.number, s.opened)

/-- The loop that an engine has belongs to its client, and the client to the last connection. -/
structure Matched (s : NetworkEngine) : Prop where
  apart : s.task = none ∨ s.idle = none
  idle : ∀ k, s.idle = some k → s.client = some k
  task : ∀ t, s.task = some t → s.client = some t.number
  client : ∀ k, s.client = some k → k + 1 = s.opened

theorem Matched.of_pairing (h : s.Matched) (same : u.pairing = s.pairing) : u.Matched := by
  obtain ⟨client, idle, task, opened⟩ : u.client = s.client ∧ u.idle = s.idle ∧
      u.task.map IoTask.number = s.task.map IoTask.number ∧ u.opened = s.opened := by
    simpa [pairing] using same
  refine ⟨?_, ?_, ?_, ?_⟩
  · rw [idle]
    refine h.apart.imp (fun none => ?_) id
    rw [none] at task
    exact Option.map_eq_none_iff.mp task
  · rw [idle, client]
    exact h.idle
  · intro t held
    rw [held] at task
    obtain ⟨t', held', number⟩ := Option.map_eq_some_iff.mp task.symm
    rw [client, ← number]
    exact h.task t' held'
  · rw [client, opened]
    exact h.client

theorem Matched.recover? (h : s.Matched) (back : s.recover? = some u) : u.Matched := by
  obtain ⟨-, rfl⟩ := eq_of_recover? back
  -- Either loop, the one that comes back and the one that was there already, belongs to the client.
  refine ⟨.inl rfl, fun k idle => ?_, nofun, h.client⟩
  dsimp only [returned] at idle
  split at idle
  · exact h.idle k idle
  · rename_i t held
    split at idle
    · exact h.idle k idle
    · cases idle
      exact h.task t held

/-- The loop and the client are replaced together. -/
theorem Matched.openLink (d : Dial) (free : s.task = none) : (s.openLink d).Matched := by
  refine ⟨.inl free, fun _ idle => idle, fun t held => ?_, fun k there => ?_⟩
  · exact absurd (free.symm.trans held) nofun
  · exact congrArg (· + 1) (Option.some.inj there).symm

/-- An engine that has carried out a command is matched again. -/
theorem Matched.finish (h : s.Matched) (done : s.finish n now c = some (r, u)) : u.Matched := by
  cases finishes_of_finish done with
  | asked hands handled =>
    cases handled with
    | accepted fits answer => exact h.of_pairing rfl
    | refused fails => exact h
  | undialed | running => exact h
  | opened asks right back => exact Matched.openLink _ (task_of_recover? back)
  | started back idle =>
    have kept := h.recover? back
    refine ⟨.inr rfl, nofun, fun t held => ?_, kept.client⟩
    obtain rfl := Option.some.inj held
    exact kept.idle _ idle
  | loopless back | stopped back => exact h.recover? back
  | destroyed back =>
    refine ⟨.inr rfl, nofun, fun t held => ?_, nofun⟩
    exact absurd ((task_of_recover? back).symm.trans held) nofun

/-- An engine whose loop has ended, or is there as before, has let go of none. -/
theorem strayed_eq_nil (kept : ∀ t, s.task = some t → t.finished = true ∨ u.task.map IoTask.number = some t.number) :
    s.strayed u = [] := by
  unfold strayed
  cases held : s.task with
  | none => rfl
  | some t =>
    rcases kept t held with ended | there
    · simp [ended]
    · obtain ⟨t', held', number⟩ := Option.map_eq_some_iff.mp there
      simp [held', number]

theorem strayed_of_pairing (same : u.pairing = s.pairing) : s.strayed u = [] := by
  have task : u.task.map IoTask.number = s.task.map IoTask.number := congrArg (fun p => p.2.2.1) same
  exact strayed_eq_nil fun t held => .inr (by rw [task, held]; rfl)

/-- Nothing is let go of before it has ended. -/
theorem strayed_of_finish (done : s.finish n now c = some (r, u)) : s.strayed u = [] := by
  cases finishes_of_finish done with
  | asked hands handled => cases handled <;> exact strayed_of_pairing rfl
  | undialed | running => exact strayed_of_pairing rfl
  | opened _ _ back | started back | loopless back | stopped back | destroyed back =>
    have rests := (eq_of_recover? back).1
    exact strayed_eq_nil fun t held => .inl (by simpa [isRunning, held] using rests)

theorem pairing_of_call : (s.call now c).pairing = s.pairing := by
  obtain ⟨grace, stopping, eq⟩ := call_frame s now c
  rw [eq]
  simp only [pairing, Option.map_map]
  rfl

theorem pairing_of_turn {turn : LoopTurn} {reports : List Report} (taken : s.turn? n now turn = some (reports, u)) :
    u.pairing = s.pairing := by
  obtain ⟨t, t', extra, held, rfl, -, turns⟩ := turns_of_turn? taken
  have number : t'.number = t.number := by cases turns <;> rfl
  simp [pairing, held, number]

end NetworkEngine

namespace Workshop

variable {h : List (Incident LoopIncident)} {x : Incident LoopIncident} {w w' : Workshop} {u : NetworkEngine}

/-- If an incident is about a loop, it is the one that was opened last. -/
def InPlace (early : List (Incident LoopIncident)) : Incident LoopIncident → Prop
  | .aside i => i.number + 1 = openings early
  | _ => True

/-- What the engine has agrees with what has happened to it. -/
structure Paired (h : List (Incident LoopIncident)) (w : Workshop) : Prop where
  settled : w.strays = []
  matched : w.engine.Matched
  opened : w.engine.opened = openings h
  later : ∀ k, openings h ≤ k → requestsOf k h = []
  taken : ∀ k, takenBy k h <+: requestsOf k h
  waiting : ∀ k, w.engine.client = some k → takenBy k h ++ w.engine.requests = requestsOf k h
  places : ∀ early x late, h = early ++ x :: late → InPlace early x

namespace Paired

theorem fresh : Paired [] fresh where
  settled := rfl
  matched := ⟨.inl rfl, nofun, nofun, nofun⟩
  opened := rfl
  later _ _ := rfl
  taken _ := List.prefix_refl _
  waiting := nofun
  places early x late split := by simp at split

/-- Nothing that has to do with requests or connections has happened. -/
theorem quiet (p : Paired h w) (unopened : x.opens = false) (none : x.accepted? = none)
    (untaken : ∀ k, takenBy k [x] = []) (place : InPlace h x) (matched : u.Matched)
    (opened : u.opened = w.engine.opened) (requests : u.requests = w.engine.requests)
    (client : ∀ k, u.client = some k → w.engine.client = some k) :
    Paired (h ++ [x]) ⟨u, []⟩ where
  settled := rfl
  matched := matched
  opened := by simp [opened, p.opened, unopened]
  later k old := by
    rw [openings_concat] at old
    rw [requestsOf_concat, p.later k (by omega), none]
    simp
  taken k := by simpa [requestsOf_concat, untaken, none] using p.taken k
  waiting k there := by simpa [requestsOf_concat, untaken, none, requests] using p.waiting k (client k there)
  places := forall_split_concat.mpr ⟨p.places, place⟩

/-- The loop that an engine holds is the one that was opened last. -/
theorem number_of_task {t : IoTask} (p : Paired h w) (held : w.engine.task = some t) : t.number + 1 = openings h :=
  (p.matched.client _ (p.matched.task t held)).trans p.opened

theorem become (p : Paired h w) (none : w.engine.strayed u = []) : w.become u = ⟨u, []⟩ := by
  simp [Workshop.become, p.settled, none]

/-- The request of the client waits for the loop that was opened last. -/
theorem accept {c : Command} {q : Request} {r : Reply} {client : Nat} (p : Paired h w) (hands : c.request? = some q)
    (answer : r.status = .success) (there : w.engine.client = some client) (pairing : u.pairing = w.engine.pairing)
    (requests : u.requests = w.engine.requests ++ [q]) : Paired (h ++ [.answered c r]) ⟨u, []⟩ := by
  have steady := Command.asks_of_request? hands
  have unopened : (.answered c r : Incident LoopIncident).opens = false := by simp [Incident.opens, steady]
  have given : (.answered c r : Incident LoopIncident).accepted? = some q := by simp [Incident.accepted?, answer, hands]
  have untaken (k : Nat) : takenBy k [.answered c r] = [] := rfl
  have same : u.client = w.engine.client := congrArg Prod.fst pairing
  have last : client + 1 = openings h := (p.matched.client client there).trans p.opened
  refine ⟨rfl, p.matched.of_pairing pairing, ?_, fun k old => ?_, fun k => ?_, fun k held => ?_,
    forall_split_concat.mpr ⟨p.places, trivial⟩⟩
  · have opened : u.opened = w.engine.opened := congrArg (fun p => p.2.2.2) pairing
    simp [opened, p.opened, unopened]
  · rw [openings_concat, unopened] at old
    rw [requestsOf_concat, p.later k (by simpa using old), if_neg (by omega), List.append_nil]
  · rw [requestsOf_concat, takenBy_append, untaken, List.append_nil]
    exact (p.taken k).trans (List.prefix_append _ _)
  · obtain rfl : client = k := Option.some.inj (there.symm.trans (same.symm.trans held))
    rw [requestsOf_concat, if_pos last.symm, given, takenBy_append, untaken, List.append_nil, requests,
      ← List.append_assoc, p.waiting client there]
    rfl

/-- A new connection begins with no requests, and with a loop that has no history. -/
theorem openLink {c : Command} {s : NetworkEngine} (p : Paired h w) (d : Dial) (asks : c.asks = true)
    (free : s.task = none) (opened : s.opened = w.engine.opened) :
    Paired (h ++ [.answered c (.ofStatus .success)]) ⟨s.openLink d, []⟩ := by
  have opens : (.answered c (.ofStatus .success) : Incident LoopIncident).opens = true :=
    Incident.opens_of_asks asks rfl
  have none := Incident.accepted?_of_opens opens
  have untaken (k : Nat) : takenBy k [.answered c (.ofStatus .success)] = [] := rfl
  have kept (k : Nat) : requestsOf k (h ++ [.answered c (.ofStatus .success)]) = requestsOf k h := by
    simp [requestsOf_concat, none]
  have count : s.opened = openings h := opened.trans p.opened
  refine ⟨rfl, NetworkEngine.Matched.openLink d free, ?_, fun k old => ?_, fun k => ?_, fun k there => ?_,
    forall_split_concat.mpr ⟨p.places, trivial⟩⟩
  · simp [NetworkEngine.openLink, opens, count]
  · rw [openings_concat, opens] at old
    rw [kept, p.later k (by omega)]
  · rw [kept, takenBy_append, untaken, List.append_nil]
    exact p.taken k
  · -- Nothing was accepted for the new loop before it was there, so it has taken nothing.
    obtain rfl : s.opened = k := Option.some.inj there
    have nothing : requestsOf s.opened h = [] := p.later _ (by omega)
    have before : takenBy s.opened h = [] := List.prefix_nil.mp (nothing ▸ p.taken _)
    rw [kept, takenBy_append, untaken, before, nothing]
    rfl

/-- The engine carries out a command. -/
theorem answer {n : Network} {now : Nat} {c : Command} {r : Reply} (p : Paired h w)
    (done : w.engine.finish n now c = some (r, u)) : Paired (h ++ [.answered c r]) (w.become u) := by
  have matched := p.matched.finish done
  have refused {r : Reply} (fails : r.status ≠ .success) : Paired (h ++ [.answered c r]) ⟨w.engine, []⟩ :=
    p.quiet (Incident.of_refused fails).1 (if_neg fails) (fun _ => rfl) trivial p.matched rfl rfl fun _ => id
  rw [p.become (NetworkEngine.strayed_of_finish done)]
  cases NetworkEngine.finishes_of_finish done with
  | asked hands handled =>
    cases handled with
    | accepted fits answer =>
      obtain ⟨client, there, -⟩ := NetworkEngine.takes_of_verdict fits
      exact p.accept hands answer there rfl rfl
    | refused fails => exact refused fails
  | undialed asks wrong =>
    obtain rfl := NetworkEngine.status_of_undialed wrong
    exact refused nofun
  | running runs => exact p.quiet rfl rfl (fun _ => rfl) trivial matched rfl rfl fun _ => id
  -- Whatever else waits for the loop leaves the client and its requests as they are, unless it replaces both.
  | opened asks right back =>
    have free := NetworkEngine.task_of_recover? back
    obtain ⟨-, rfl⟩ := NetworkEngine.eq_of_recover? back
    exact p.openLink _ asks free rfl
  | started back | loopless back | stopped back =>
    obtain ⟨-, rfl⟩ := NetworkEngine.eq_of_recover? back
    exact p.quiet rfl rfl (fun _ => rfl) trivial matched rfl rfl fun _ => id
  | destroyed back =>
    obtain ⟨-, rfl⟩ := NetworkEngine.eq_of_recover? back
    exact p.quiet rfl rfl (fun _ => rfl) trivial matched rfl rfl nofun

/-- The loop takes requests that were handed in at its client. -/
theorem took {t : IoTask} {taken rest : List Request} (p : Paired h w) (held : w.engine.task = some t)
    (waiting : w.engine.requests = taken ++ rest) :
    Paired (h ++ [.aside (.took t.number taken)]) { w with engine := { w.engine with requests := rest } } := by
  have own := p.matched.task t held
  have last := p.number_of_task held
  have all : takenBy t.number h ++ taken ++ rest = requestsOf t.number h := by
    rw [List.append_assoc, ← waiting]
    exact p.waiting _ own
  have kept (k : Nat) : requestsOf k (h ++ [.aside (.took t.number taken)]) = requestsOf k h := by
    simp [requestsOf_concat, Incident.accepted?]
  have more (k : Nat) : takenBy k (h ++ [.aside (.took t.number taken)]) =
      takenBy k h ++ if t.number = k then taken else [] := by
    simp [takenBy]
  refine ⟨p.settled, p.matched.of_pairing rfl, by simp [p.opened, Incident.opens], fun k old => ?_, fun k => ?_,
    fun k there => ?_, forall_split_concat.mpr ⟨p.places, last⟩⟩
  · rw [kept]
    exact p.later k (by simpa [Incident.opens] using old)
  · rw [kept, more]
    split
    · rename_i same
      rw [← same, ← all]
      exact List.prefix_append _ _
    · simpa using p.taken k
  · obtain rfl : t.number = k := Option.some.inj (own.symm.trans there)
    rw [kept, more, if_pos rfl]
    exact all

/-- Something happens to the loop. -/
theorem aside {n : Network} {busy : Option Command} {i : LoopIncident} (p : Paired h w)
    (happened : w.Aside n busy i w') : Paired (h ++ [.aside i]) w' := by
  cases happened with
  | turned held taken =>
    have pairing := NetworkEngine.pairing_of_turn taken
    obtain ⟨t', extra, rfl, -, -⟩ := NetworkEngine.turns_of_running held taken
    rw [p.settled]
    exact p.quiet rfl rfl (fun _ => rfl) (p.number_of_task held) (p.matched.of_pairing pairing) rfl rfl fun _ => id
  | strayTurned among turns => simp [p.settled] at among
  | @took t taken rest among runs own waiting =>
    -- Without strays the loop that takes requests is the one that the engine holds.
    have held : w.engine.task = some t := by simpa [tasks, p.settled] using among
    exact p.took held waiting
  | @brokeDown t u held broken =>
    obtain rfl := NetworkEngine.eq_of_breakDown? held broken
    rw [p.settled]
    refine p.quiet rfl rfl (fun _ => rfl) (p.number_of_task held) (p.matched.of_pairing ?_) rfl rfl fun _ => id
    simp [NetworkEngine.pairing, held]
  | @abandoned now c t u waits still held cut =>
    obtain rfl := NetworkEngine.eq_of_abandon? held cut
    have matched : ({ w.engine with task := none, grace := none } : NetworkEngine).Matched :=
      ⟨.inl rfl, p.matched.idle, nofun, p.matched.client⟩
    rw [p.settled]
    exact p.quiet rfl rfl (fun _ => rfl) (p.number_of_task held) matched rfl rfl fun _ => id

/-- The engine takes notice of something. -/
theorem notice (p : Paired h w) (unopened : x.opens = false) (none : x.accepted? = none)
    (untaken : ∀ k, takenBy k [x] = []) (place : InPlace h x) (pairing : u.pairing = w.engine.pairing)
    (requests : u.requests = w.engine.requests) : Paired (h ++ [x]) (w.become u) := by
  rw [p.become (NetworkEngine.strayed_of_pairing pairing)]
  have client : u.client = w.engine.client := congrArg Prod.fst pairing
  have opened : u.opened = w.engine.opened := congrArg (fun p => p.2.2.2) pairing
  exact p.quiet unopened none untaken place (p.matched.of_pairing pairing) opened requests fun k there => client ▸ there

/-- Whatever has happened to an engine, it agrees with that. -/
theorem of_life {fs : Files} {n : Network} {busy : Option Command} (life : Lives fs n h busy w) : Paired h w := by
  induction life with
  | begin => exact .fresh
  | set x life p => exact p.notice rfl rfl (fun _ => rfl) trivial rfl rfl
  | attach life p => exact p.notice rfl rfl (fun _ => rfl) trivial rfl rfl
  | @hear h w now c life p =>
    obtain ⟨grace, stopping, eq⟩ := NetworkEngine.call_frame w.engine now c
    have requests : (w.engine.call now c).requests = w.engine.requests := by rw [eq]
    exact p.notice rfl rfl (fun _ => rfl) trivial NetworkEngine.pairing_of_call requests
  | answer life done p =>
    obtain ⟨⟨r', u⟩, finished, eq⟩ := Option.map_eq_some_iff.mp done
    cases eq
    exact p.answer finished
  | aside life happened p => exact p.aside happened

end Paired

/-- There is one event loop at most. It lies idle or it was started, it was opened together with the client, and
whatever is accepted at the client waits for this loop, which takes it in the order in which it was accepted. What
happens to a loop happens to the one that was opened last: once a connection was opened, nothing comes from an earlier
loop any more. -/
theorem one_loop {fs : Files} {n : Network} {busy : Option Command} (life : Lives fs n h busy w) :
    (w.engine.task = none ∨ w.engine.idle = none) ∧ w.tasks.length ≤ 1 ∧
      (∀ k, (w.engine.idle = some k ∨ ∃ t ∈ w.tasks, t.number = k) → w.engine.client = some k ∧ k + 1 = openings h) ∧
      (∀ now c q r u, c.request? = some q → w.engine.finish n now c = some (r, u) → r.status = .success →
        u.requests = w.engine.requests ++ [q] ∧
          ∃ k, w.engine.client = some k ∧
            (w.engine.idle = some k ∨ ∃ t ∈ w.tasks, t.number = k ∧ t.broken = false)) ∧
      (∀ k, takenBy k h <+: requestsOf k h) ∧
      (∀ k, w.engine.client = some k → takenBy k h ++ w.engine.requests = requestsOf k h) ∧
      ∀ early i late, h = early ++ .aside i :: late → i.number + 1 = openings early := by
  have p := Paired.of_life life
  have tasks : w.tasks = w.engine.task.toList := by simp [Workshop.tasks, p.settled]
  refine ⟨p.matched.apart, ?_, fun k there => ?_, fun now c q r u hands done fine => ?_, p.taken, p.waiting,
    fun early i late split => p.places early _ late split⟩
  · rw [tasks]
    exact Option.length_toList_le
  · have client : w.engine.client = some k := by
      rcases there with idle | ⟨t, among, rfl⟩
      · exact p.matched.idle k idle
      · exact p.matched.task t (by simpa [tasks] using among)
    exact ⟨client, (p.matched.client k client).trans p.opened⟩
  · cases NetworkEngine.handled_of_finish hands done with
    | refused fails => exact absurd fine fails
    | accepted fits answer =>
      obtain ⟨client, there, takes⟩ := NetworkEngine.takes_of_verdict fits
      refine ⟨rfl, client, there, ?_⟩
      simpa [NetworkEngine.takes, tasks, Option.any_eq_true] using takes

/-- Somebody listens to an engine and connects. -/
def joinedHistory : List (Incident LoopIncident) :=
  [.set (.identity "sensor" true .v311), .attached, .heard (.connect "broker" 1883 60),
    .answered (.connect "broker" 1883 60) (.ofStatus .success)]

/-- The engine with the connection. -/
def joinedEngine : NetworkEngine := { NetworkEngine.fresh with
  settings := { NetworkSettings.start with identity := some ⟨"sensor", true⟩ }
  attached := true
  endpoint := some ⟨"broker", 1883, 60⟩
  client := some 0
  idle := some 0
  ids := .start defaultWindow
  opened := 1 }

/-- The first loop of the engine when it has just been started. -/
def joinedLoop : IoTask := ⟨0, .start .disabled, 50, false, false, false, false⟩

theorem lives_joined : Lives .empty .unreachable joinedHistory none ⟨joinedEngine, []⟩ := by
  have new : Lives .empty .unreachable [] none .fresh := .begin
  exact (new.set (.identity "sensor" true .v311)).attach.exchange 0 (.connect "broker" 1883 60) rfl

theorem lives_started :
    Lives .empty .unreachable (joinedHistory ++ [.heard .startLoop, .answered .startLoop (.ofStatus .success)]) none
      ⟨{ joinedEngine with idle := none, task := some joinedLoop }, []⟩ :=
  lives_joined.exchange 0 .startLoop rfl

/-- A loop takes a request and is then cut off, since it does not stop. The next connection has the next loop, and
what is reported since comes from there. -/
theorem one_loop_abandoned :
    let publish : Command := .publish "news" .empty .atLeastOnce false
    let request : Request := .publish "news" .empty .atLeastOnce false
    let h : List (Incident LoopIncident) := joinedHistory ++
      [.heard .startLoop, .answered .startLoop (.ofStatus .success), .heard publish, .answered publish ⟨.success, 1⟩,
        .aside (.took 0 [request]), .heard .stopLoop, .aside (.abandoned 0), .answered .stopLoop (.ofStatus .success),
        .heard .reconnect, .answered .reconnect (.ofStatus .success), .heard .startLoop,
        .answered .startLoop (.ofStatus .success),
        .aside (.turned 1 (.look (.failed .transport)) [.event (.disconnect 7)])]
    ∃ w, Lives .empty .unreachable h none w ∧ w.engine.client = some 1 ∧ w.tasks.length ≤ 1 ∧
      takenBy 0 h = [request] ∧ takenBy 0 h <+: requestsOf 0 h ∧ 1 + 1 = openings (h.take 16) := by
  intro publish request h
  let stopping : IoTask := { joinedLoop with stopping := true }
  let next : IoTask := { joinedLoop with number := 1 }
  let first : NetworkEngine := { joinedEngine with
    idle := none, task := some joinedLoop, ids := (PacketIds.start defaultWindow).next.2 }
  let second : NetworkEngine := { joinedEngine with client := some 1, idle := some 1, opened := 2 }
  have heard : Lives .empty .unreachable (h.take 8) none ⟨{ first with requests := [request] }, []⟩ :=
    lives_started.exchange 0 publish rfl
  have took : Lives .empty .unreachable (h.take 9) none ⟨first, []⟩ :=
    heard.aside (@Aside.took _ _ ⟨{ first with requests := [request] }, []⟩ joinedLoop [request] []
      (List.mem_singleton_self _) rfl rfl rfl)
  have told : Lives .empty .unreachable (h.take 10) (some .stopLoop) ⟨{ first with task := some stopping }, []⟩ :=
    took.hear 0 .stopLoop
  have cut : Lives .empty .unreachable (h.take 11) (some .stopLoop) ⟨{ first with task := none }, []⟩ :=
    told.aside (@Aside.abandoned _ _ ⟨{ first with task := some stopping }, []⟩ 0 .stopLoop stopping _ rfl rfl rfl rfl)
  have stopped : Lives .empty .unreachable (h.take 12) none ⟨{ first with task := none }, []⟩ :=
    cut.answer (show (behaviour .empty .unreachable).finish _ 0 _ = _ from rfl)
  have again : Lives .empty .unreachable (h.take 14) none ⟨second, []⟩ := stopped.exchange 0 .reconnect rfl
  have started : Lives .empty .unreachable (h.take 16) none ⟨{ second with idle := none, task := some next }, []⟩ :=
    again.exchange 0 .startLoop rfl
  have lost : Lives .empty .unreachable h none _ :=
    started.aside (@Aside.turned _ _ ⟨{ second with idle := none, task := some next }, []⟩ 50 next
      (.look (.failed .transport)) _ _ rfl rfl)
  obtain ⟨-, one, -, -, taken, -, places⟩ := one_loop lost
  exact ⟨_, lost, rfl, one, rfl, taken 0, places (h.take 16) (.turned 1 (.look (.failed .transport)) _) [] rfl⟩

end Workshop

end BrokerSession
