import BrokerSession.Proofs.Network.Lives

/-!
# Requests without a connection

Once its owner has ended the connection and stopped the loop, the loopback engine refuses every request until it is
asked for a connection again. The network engine refuses one only if nothing is left that could take it: stopping a loop
keeps it for a later start, and the client that belongs to it stays too. So the client goes on accepting requests,
unless the engine was let go of, or the loop is lost because it broke down or was cut off.

## Main definitions

* `Destroyed` - the engine was let go of, and has opened no connection since
* `Lost` - a loop was cut off, or broke down and was then waited for
* `Workshop.Surviving` - what is left of a loop, by its history

## Main results

* `Workshop.Surviving.of_life` - what is left of the loop of the client
* `reply_of_parted` - the replies of both engines to requests without a connection
* `accepted_after_parting` - a request that a network engine accepts, although there is no connection
-/

namespace BrokerSession

/-- Whether a command is about messages. -/
def Command.isMessage : Command → Bool
  | publish .. => true
  | subscribe .. => true
  | unsubscribe _ => true
  | _ => false

theorem Command.request?_of_isMessage {c : Command} (message : c.isMessage = true) : ∃ q, c.request? = some q := by
  cases c with
  | publish | subscribe | unsubscribe => exact ⟨_, rfl⟩
  | _ => cases message

/-! ## Histories -/

section

variable {ι : Type} {h : List (Incident ι)} {x : Incident ι}

/-- Whether an incident is that the engine was let go of. -/
def Incident.destroys : Incident ι → Bool
  | answered c _ => c == .destroy
  | _ => false

/-- Whether an incident is that an ended loop was waited for, with no other loop in its place. -/
def Incident.recovers : Incident ι → Bool
  | answered c _ => c == .startLoop || c == .stopLoop
  | _ => false

/-- The engine was let go of, and has opened no connection since. -/
def Destroyed (h : List (Incident ι)) : Prop :=
  ∃ early x late, h = early ++ x :: late ∧ x.destroys = true ∧ ∀ y ∈ late, y.opens = false

theorem destroyed_concat : Destroyed (h ++ [x]) ↔ x.destroys = true ∨ Destroyed h ∧ x.opens = false :=
  exists_split_concat

end

section

variable {h : List (Incident LoopIncident)} {x : Incident LoopIncident} {k : Nat}

/-- A request opens no connection, and no engine or loop is at stake. -/
theorem Incident.of_request? {c : Command} {q : Request} {r : Reply} (hands : c.request? = some q) :
    (answered c r : Incident LoopIncident).opens = false ∧ (answered c r : Incident LoopIncident).destroys = false ∧
      (answered c r : Incident LoopIncident).recovers = false := by
  cases c <;> first | exact ⟨rfl, rfl, rfl⟩ | cases hands

/-- A connect puts another loop in the place of an ended one, and lets go of no engine. -/
theorem Incident.of_asks {c : Command} {r : Reply} (asks : c.asks = true) :
    (answered c r : Incident LoopIncident).destroys = false ∧
      (answered c r : Incident LoopIncident).recovers = false := by
  cases c <;> first | exact ⟨rfl, rfl⟩ | cases asks

/-- A loop was cut off, or has broken down and was then waited for. -/
def Lost (k : Nat) (h : List (Incident LoopIncident)) : Prop :=
  .aside (.abandoned k) ∈ h ∨
    ∃ early x late, h = early ++ x :: late ∧ x.recovers = true ∧ .aside (.brokeDown k) ∈ early

/-- A loop was cut off or has broken down. -/
def Failed (k : Nat) (h : List (Incident LoopIncident)) : Prop :=
  .aside (.abandoned k) ∈ h ∨ .aside (.brokeDown k) ∈ h

theorem failed_concat : Failed k (h ++ [x]) ↔ Failed k h ∨ x = .aside (.abandoned k) ∨ x = .aside (.brokeDown k) := by
  simp only [Failed, List.mem_append, List.mem_singleton]
  grind

theorem lost_concat : Lost k (h ++ [x]) ↔
    Lost k h ∨ x = .aside (.abandoned k) ∨ x.recovers = true ∧ .aside (.brokeDown k) ∈ h := by
  have places : (∃ early y late, h ++ [x] = early ++ y :: late ∧ y.recovers = true ∧ .aside (.brokeDown k) ∈ early) ↔
      (x.recovers = true ∧ .aside (.brokeDown k) ∈ h) ∨
        ∃ early y late, h = early ++ y :: late ∧ y.recovers = true ∧ .aside (.brokeDown k) ∈ early := by
    simpa using exists_split_concat (Q := fun _ => True)
      (P := fun early (y : Incident LoopIncident) => y.recovers = true ∧ .aside (.brokeDown k) ∈ early)
  unfold Lost
  rw [places]
  simp only [List.mem_append, List.mem_singleton]
  grind

theorem Lost.failed (lost : Lost k h) : Failed k h := by
  rcases lost with abandoned | ⟨early, x, late, rfl, -, broken⟩
  · exact .inl abandoned
  · exact .inr (List.mem_append_left _ broken)

/-- Whoever waits for a loop that has failed loses it. -/
theorem lost_concat_of_recovers (waited : x.recovers = true) : Lost k (h ++ [x]) ↔ Failed k h := by
  rw [lost_concat]
  constructor
  · rintro (lost | rfl | ⟨-, broken⟩)
    · exact lost.failed
    · cases waited
    · exact .inr broken
  · rintro (abandoned | broken)
    · exact .inl (.inl abandoned)
    · exact .inr (.inr ⟨waited, broken⟩)

end

/-! ## What is left of a loop -/

namespace NetworkEngine

variable {s u : NetworkEngine}

/-- Where the loop is, and whether it is whole. -/
def remains (s : NetworkEngine) : Option Nat × Option Nat × Option (Nat × Bool) :=
  (s.client, s.idle, s.task.map fun t => (t.number, t.broken))

theorem of_remains (same : u.remains = s.remains) :
    u.client = s.client ∧ u.returned = s.returned ∧ u.hasLoop = s.hasLoop := by
  obtain ⟨client, idle, task⟩ : u.client = s.client ∧ u.idle = s.idle ∧
      (u.task.map fun t => (t.number, t.broken)) = s.task.map fun t => (t.number, t.broken) := by
    simpa [remains] using same
  refine ⟨client, ?_, ?_⟩
  · cases held : s.task <;> cases held' : u.task <;> simp_all [returned]
  · cases held : s.task <;> cases held' : u.task <;> simp_all [hasLoop]

/-- Where no loop runs, none has broken down while it did. -/
theorem ended_of_free (free : s.task = none) (t : IoTask) (held : s.task = some t) (_ : t.broken = true) :
    t.finished = true :=
  absurd (free.symm.trans held) (Option.some_ne_none t).symm

/-- Waiting for a loop leaves what comes back of it. -/
theorem returned_of_recover? (back : s.recover? = some u) :
    u.client = s.client ∧ u.returned = s.returned ∧ u.hasLoop = s.returned.isSome := by
  obtain ⟨-, rfl⟩ := eq_of_recover? back
  exact ⟨rfl, rfl, rfl⟩

end NetworkEngine

namespace Workshop

variable {h : List (Incident LoopIncident)} {x : Incident LoopIncident} {w w' : Workshop} {u : NetworkEngine}
  {strays : List IoTask}

/-- What happened to a loop happened after it was opened. -/
theorem Paired.number_lt {i : LoopIncident} (p : Paired h w) (happened : .aside i ∈ h) : i.number < openings h := by
  obtain ⟨early, late, rfl⟩ := List.append_of_mem happened
  have last : i.number + 1 = openings early := p.places early _ late rfl
  have grown : openings early ≤ openings (early ++ .aside i :: late) := by
    simp [openings, List.countP_append]
  omega

/-- What is left of the loop of the client, by what has happened to it. -/
structure Surviving (h : List (Incident LoopIncident)) (w : Workshop) : Prop where
  client : w.engine.client = none ↔ openings h = 0 ∨ Destroyed h
  linked : (∃ x ∈ h, x.severs = true) → openings h ≠ 0
  ended : ∀ t, w.engine.task = some t → t.broken = true → t.finished = true
  failed : ∀ k, w.engine.client = some k → (w.engine.returned = none ↔ Failed k h)
  lost : ∀ k, w.engine.client = some k → (w.engine.hasLoop = false ↔ Lost k h)

namespace Surviving

theorem fresh : Surviving [] fresh where
  client := by simp [Workshop.fresh, NetworkEngine.fresh, openings]
  linked := by simp
  ended := nofun
  failed := nofun
  lost := nofun

/-- Nothing that has to do with the loop has happened. -/
theorem quiet (v : Surviving h w) (unopened : x.opens = false) (kept : x.destroys = false)
    (unwaited : x.recovers = false) (parting : x.severs = true → openings h ≠ 0)
    (whole : ∀ k, x ≠ .aside (.abandoned k) ∧ x ≠ .aside (.brokeDown k))
    (same : u.remains = w.engine.remains) (ended : ∀ t, u.task = some t → t.broken = true → t.finished = true) :
    Surviving (h ++ [x]) ⟨u, strays⟩ := by
  obtain ⟨client, returned, loop⟩ := NetworkEngine.of_remains same
  refine ⟨?_, ?_, ended, fun k there => ?_, fun k there => ?_⟩
  · simp [client, v.client, destroyed_concat, unopened, kept]
  · simp only [List.mem_append, List.mem_singleton, openings_concat, unopened]
    rintro ⟨y, before | rfl, severs⟩
    · exact v.linked ⟨y, before, severs⟩
    · exact parting severs
  · simpa [returned, failed_concat, whole k] using v.failed k (client ▸ there)
  · simpa [loop, lost_concat, whole k, unwaited] using v.lost k (client ▸ there)

/-- A loop that has ended was waited for. -/
theorem waited (v : Surviving h w) (unopened : x.opens = false) (kept : x.destroys = false) (waited : x.recovers = true)
    (client : u.client = w.engine.client) (returned : u.returned = w.engine.returned)
    (loop : u.hasLoop = w.engine.returned.isSome) (ended : ∀ t, u.task = some t → t.broken = true → t.finished = true) :
    Surviving (h ++ [x]) ⟨u, strays⟩ := by
  have steady : x.severs = false := by cases x <;> simp_all [Incident.recovers, Incident.severs]; grind
  have answers : ∀ k, x ≠ .aside (.abandoned k) ∧ x ≠ .aside (.brokeDown k) := by
    intro k
    constructor <;> rintro rfl <;> cases waited
  refine ⟨?_, ?_, ended, fun k there => ?_, fun k there => ?_⟩
  · simp [client, v.client, destroyed_concat, unopened, kept]
  · simp only [List.mem_append, List.mem_singleton, openings_concat, unopened]
    rintro ⟨y, before | rfl, severs⟩
    · exact v.linked ⟨y, before, severs⟩
    · simp [steady] at severs
  · simpa [returned, failed_concat, answers k] using v.failed k (client ▸ there)
  · -- What came back of the loop is all that there is now, so it is lost exactly if it had failed.
    rw [lost_concat_of_recovers waited, ← v.failed k (client ▸ there)]
    simp [loop]

/-- A new loop is whole. -/
theorem opened {c : Command} {s : NetworkEngine} (p : Paired h w) (d : Dial) (asks : c.asks = true)
    (free : s.task = none) (count : s.opened = w.engine.opened) :
    Surviving (h ++ [.answered c (.ofStatus .success)]) ⟨s.openLink d, strays⟩ := by
  have opens : (.answered c (.ofStatus .success) : Incident LoopIncident).opens = true :=
    Incident.opens_of_asks asks rfl
  have keeps : (.answered c (.ofStatus .success) : Incident LoopIncident).destroys = false := (Incident.of_asks asks).1
  have last : s.opened = openings h := count.trans p.opened
  have new : ¬ Failed s.opened h := by
    rintro (abandoned | broken)
    · exact absurd (p.number_lt abandoned) (by simp [LoopIncident.number, last])
    · exact absurd (p.number_lt broken) (by simp [LoopIncident.number, last])
  have idle : (s.openLink d).returned = some s.opened := by simp [NetworkEngine.returned, NetworkEngine.openLink, free]
  have loop : (s.openLink d).hasLoop = true := by simp [NetworkEngine.hasLoop, NetworkEngine.openLink]
  refine ⟨?_, ?_, NetworkEngine.ended_of_free free, fun k there => ?_, fun k there => ?_⟩
  · simp [NetworkEngine.openLink, destroyed_concat, opens, keeps]
  · simp [opens]
  · obtain rfl : s.opened = k := Option.some.inj there
    simp [idle, failed_concat, new]
  · obtain rfl : s.opened = k := Option.some.inj there
    have unlost : ¬ Lost s.opened h := fun lost => new lost.failed
    have unbroken : .aside (.brokeDown s.opened) ∉ h := fun broken => new (.inr broken)
    simp [loop, lost_concat, unlost, unbroken]

/-- The engine carries out a command. -/
theorem answer {n : Network} {now : Nat} {c : Command} {r : Reply} (v : Surviving h w) (p : Paired h w)
    (done : w.engine.finish n now c = some (r, u)) : Surviving (h ++ [.answered c r]) ⟨u, strays⟩ := by
  have whole {r : Reply} (k : Nat) : (.answered c r : Incident LoopIncident) ≠ .aside (.abandoned k) ∧
      (.answered c r : Incident LoopIncident) ≠ .aside (.brokeDown k) := ⟨nofun, nofun⟩
  have parting {r : Reply} (fails : r.status ≠ .success)
      (severs : (.answered c r : Incident LoopIncident).severs = true) : openings h ≠ 0 :=
    absurd severs (Bool.eq_false_iff.mp (Incident.of_refused fails).2)
  cases NetworkEngine.finishes_of_finish done with
  | asked hands handled =>
    obtain ⟨unopened, kept, unwaited⟩ := Incident.of_request? (r := r) hands
    cases handled with
    | accepted fits answer =>
      obtain ⟨client, there, -⟩ := NetworkEngine.takes_of_verdict fits
      have last : client + 1 = openings h := (p.matched.client client there).trans p.opened
      exact v.quiet unopened kept unwaited (fun _ => by omega) whole rfl v.ended
    | refused fails =>
      exact v.quiet unopened kept unwaited (parting fails) whole rfl v.ended
  | undialed asks wrong =>
    obtain rfl := NetworkEngine.status_of_undialed wrong
    have fails : (Reply.ofStatus .inval).status ≠ .success := nofun
    obtain ⟨kept, unwaited⟩ := Incident.of_asks (r := .ofStatus .inval) asks
    exact v.quiet (Incident.of_refused fails).1 kept unwaited (parting fails) whole rfl v.ended
  | opened asks right back =>
    have free := NetworkEngine.task_of_recover? back
    obtain ⟨-, rfl⟩ := NetworkEngine.eq_of_recover? back
    exact opened p _ asks free rfl
  | running runs =>
    -- A loop that runs has not broken down, so that nothing is lost by not waiting for it.
    obtain ⟨t, held, runs⟩ : ∃ t, w.engine.task = some t ∧ t.finished = false := by
      simpa [NetworkEngine.isRunning, Option.any_eq_true] using runs
    have sound : t.broken = false := Bool.eq_false_iff.mpr fun broken => by simp [v.ended t held broken] at runs
    exact v.waited rfl rfl rfl rfl rfl (by simp [NetworkEngine.hasLoop, NetworkEngine.returned, held, sound]) v.ended
  | @started s number next back idle =>
    obtain ⟨client, -, -⟩ := NetworkEngine.returned_of_recover? back
    obtain ⟨-, rfl⟩ := NetworkEngine.eq_of_recover? back
    have comes : w.engine.returned = some number := idle
    refine v.waited rfl rfl rfl client ?_ ?_ (fun t' held broken => ?_)
    · rw [comes]
      simp [NetworkEngine.returned]
    · rw [comes]
      simp [NetworkEngine.hasLoop]
    · obtain rfl := Option.some.inj held
      cases broken
  | loopless back | stopped back =>
    obtain ⟨client, returned, loop⟩ := NetworkEngine.returned_of_recover? back
    have free := NetworkEngine.task_of_recover? back
    exact v.waited rfl rfl rfl client returned loop (NetworkEngine.ended_of_free free)
  | destroyed back =>
    have free := NetworkEngine.task_of_recover? back
    refine ⟨?_, ?_, NetworkEngine.ended_of_free free, fun k there => ?_, fun k there => ?_⟩
    · simp [destroyed_concat, Incident.destroys]
    · simpa [Incident.severs, Incident.opens, Command.asks] using v.linked
    · cases there
    · cases there

theorem aside {n : Network} {busy : Option Command} {i : LoopIncident} (v : Surviving h w) (p : Paired h w)
    (happened : w.Aside n busy i w') : Surviving (h ++ [.aside i]) w' := by
  -- Turns of a loop change nothing of this; what does is a breakdown, and a wait that is abandoned.
  cases happened with
  | @turned now t turn reports u held taken =>
    obtain ⟨t', extra, rfl, -, turns⟩ := NetworkEngine.turns_of_running held taken
    have same : t'.number = t.number ∧ t'.broken = t.broken := by cases turns <;> exact ⟨rfl, rfl⟩
    refine v.quiet rfl rfl rfl nofun (fun _ => ⟨nofun, nofun⟩) ?_ (fun t'' held' broken => ?_)
    · simp [NetworkEngine.remains, held, same]
    · obtain rfl := Option.some.inj held'
      have ended := v.ended t held (same.2 ▸ broken)
      cases turns <;> simp_all
  | strayTurned among turns => simp [p.settled] at among
  | took among runs own waiting =>
    exact v.quiet rfl rfl rfl nofun (fun _ => ⟨nofun, nofun⟩) rfl v.ended
  | @brokeDown t u held broken =>
    obtain rfl := NetworkEngine.eq_of_breakDown? held broken
    have idle : w.engine.idle = none := p.matched.apart.resolve_left (by simp [held])
    have loop : w.engine.hasLoop = true := by simp [NetworkEngine.hasLoop, held]
    refine ⟨?_, ?_, fun t' held' _ => ?_, fun k there => ?_, fun k there => ?_⟩
    · simpa [destroyed_concat, Incident.destroys, Incident.opens] using v.client
    · simpa [Incident.severs, Incident.opens] using v.linked
    · obtain rfl := Option.some.inj held'
      rfl
    · obtain rfl : t.number = k := Option.some.inj ((p.matched.task t held).symm.trans there)
      simp [NetworkEngine.returned, idle, failed_concat]
    · -- The engine has the broken loop until somebody waits for it.
      have kept : ¬ Lost k h := fun lost => by simp [(v.lost k there).mpr lost] at loop
      simp [NetworkEngine.hasLoop, lost_concat, Incident.recovers, kept]
  | @abandoned now c t u waits still held cut =>
    obtain rfl := NetworkEngine.eq_of_abandon? held cut
    have idle : w.engine.idle = none := p.matched.apart.resolve_left (by simp [held])
    refine ⟨?_, ?_, NetworkEngine.ended_of_free rfl, fun k there => ?_, fun k there => ?_⟩
    · simpa [destroyed_concat, Incident.destroys, Incident.opens] using v.client
    · simpa [Incident.severs, Incident.opens] using v.linked
    · obtain rfl : t.number = k := Option.some.inj ((p.matched.task t held).symm.trans there)
      simp [NetworkEngine.returned, idle, failed_concat]
    · obtain rfl : t.number = k := Option.some.inj ((p.matched.task t held).symm.trans there)
      simp [NetworkEngine.hasLoop, idle, lost_concat]

/-- What is left of the loop of the client follows from what has happened. -/
theorem of_life {fs : Files} {n : Network} {busy : Option Command} (life : Lives fs n h busy w) : Surviving h w := by
  induction life with
  | begin => exact fresh
  | set x life v =>
    exact v.quiet rfl rfl rfl nofun (fun _ => ⟨nofun, nofun⟩) rfl v.ended
  | attach life v =>
    exact v.quiet rfl rfl rfl nofun (fun _ => ⟨nofun, nofun⟩) rfl v.ended
  | @hear h w now c life v =>
    obtain ⟨grace, stopping, eq⟩ := NetworkEngine.call_frame w.engine now c
    refine v.quiet rfl rfl rfl nofun (fun _ => ⟨nofun, nofun⟩) ?_ ?_
    · change (w.engine.call now c).remains = _
      rw [eq]
      simp only [NetworkEngine.remains, Option.map_map]
      rfl
    · change ∀ t, (w.engine.call now c).task = some t → _
      rw [eq]
      intro t held broken
      obtain ⟨t', held', rfl⟩ := Option.map_eq_some_iff.mp held
      exact v.ended t' held' broken
  | answer life done v =>
    obtain ⟨⟨r', u⟩, finished, eq⟩ := Option.map_eq_some_iff.mp done
    cases eq
    exact v.answer (.of_life life) finished
  | aside life happened v => exact v.aside (.of_life life) happened

end Surviving

end Workshop

/-! ## Replies -/

/-- An engine without a connection that refuses nothing of its own accord refuses requests all the same. -/
theorem Loopback.finish_of_unconnected {s : Loopback} {c : Command} (unrefused : s.failures = [])
    (gone : s.connected = false) (message : c.isMessage = true) : s.finish c = some (⟨.noConn, 0⟩, s) := by
  cases c with
  | publish | subscribe | unsubscribe =>
    simp [finish, refusal?, unrefused, awaitsLoop, perform, whenConnected, gone, Reply.ofStatus]
  | _ => cases message

/-- A reply that there is no connection is the verdict on a request. -/
theorem NetworkEngine.reply_eq_noConn_iff {n : Network} {s : NetworkEngine} {now : Nat} {c : Command}
    (message : c.isMessage = true) :
    (s.finish n now c).map Prod.fst = some ⟨.noConn, 0⟩ ↔ s.client = none ∨ s.hasLoop = false ∧ c.fault? = none := by
  obtain ⟨q, hands⟩ := Command.request?_of_isMessage message
  rw [finish_of_request hands, ← verdict_eq_noConn_iff]
  split
  · rename_i fits
    have answer := (acknowledge_frame { s with requests := s.requests ++ [q] } c).1
    simp only [Option.map_some, Option.some.injEq, fits, reduceCtorEq, iff_false]
    intro same
    rw [same] at answer
    cases answer
  · simp [Reply.ofStatus]

/-- Once its owner has ended the connection and stopped the loop, a loopback engine that refuses nothing else replies to
every request that there is no connection, as long as it is not asked for one. A network engine does so exactly if it
was let go of since, or the loop of its client is lost and nothing else is wrong with the request. -/
theorem reply_of_parted {c : Command} (message : c.isMessage = true) (now : Nat) :
    (∀ delays code h busy s, Loopback.Lives (.fresh [] delays code) h busy s → Parted h →
      (Loopback.engine.finish s now c).map Prod.fst = some ⟨.noConn, 0⟩) ∧
    ∀ fs n h busy w, Workshop.Lives fs n h busy w → Parted h →
      ((w.engine.finish n now c).map Prod.fst = some ⟨.noConn, 0⟩ ↔
        Destroyed h ∨ c.fault? = none ∧ ∃ k, k + 1 = openings h ∧ Lost k h) := by
  constructor
  · intro delays code h busy s life parted
    have unrefused : s.failures = [] := Loopback.failures_of_life life
    have gone := Loopback.connected_of_severed life rfl parted.severed
    have refused := Loopback.finish_of_unconnected unrefused gone message
    exact congrArg (Option.map Prod.fst) refused
  · intro fs n h busy w life parted
    have p := Workshop.Paired.of_life life
    have v := Workshop.Surviving.of_life life
    -- There was a client when the connection was ended, so it is gone only if the engine was let go of since.
    have joined : openings h ≠ 0 := by
      obtain ⟨early, x, late, rfl, severs, -⟩ := parted.severed
      exact v.linked ⟨x, by simp, severs⟩
    rw [NetworkEngine.reply_eq_noConn_iff message]
    cases there : w.engine.client with
    | none => simp [(v.client.mp there).resolve_left joined]
    | some k =>
      have held : ¬ Destroyed h := fun destroyed => by simp [v.client.mpr (.inr destroyed)] at there
      have last : k + 1 = openings h := (p.matched.client k there).trans p.opened
      have only : (∃ k, k + 1 = openings h ∧ Lost k h) ↔ Lost k h := by
        constructor
        · rintro ⟨k', last', lost⟩
          obtain rfl : k' = k := by omega
          exact lost
        · exact fun lost => ⟨k, last, lost⟩
      rw [only, ← v.lost k there]
      simp [held, and_comm]

section

open Workshop

/-- Somebody connects to a broker that cannot be reached, disconnects and stops the loop. -/
def vainHistory : List (Incident LoopIncident) :=
  joinedHistory ++ [.heard .startLoop, .answered .startLoop (.ofStatus .success),
    .aside (.turned 0 (.look (.failed .transport)) [.event (.disconnect 7)]), .heard .disconnect,
    .answered .disconnect (.ofStatus .success), .heard .stopLoop, .answered .stopLoop (.ofStatus .success)]

/-- What is left of the engine then: the client, the loop, and what was asked for. -/
def vainEngine : NetworkEngine := { joinedEngine with requests := [.disconnect], disconnectRequested := true }

theorem lives_vain : Lives .empty .unreachable vainHistory none ⟨vainEngine, []⟩ := by
  let failed : NetworkEngine := { joinedEngine with idle := none, task := some { joinedLoop with finished := true } }
  have lost : Lives .empty .unreachable (vainHistory.take 7) none ⟨failed, []⟩ :=
    lives_started.aside (@Aside.turned _ _ ⟨{ joinedEngine with idle := none, task := some joinedLoop }, []⟩ 50
      joinedLoop (.look (.failed .transport)) _ _ rfl rfl)
  have left : Lives .empty .unreachable (vainHistory.take 9) none
      ⟨{ failed with requests := [.disconnect], disconnectRequested := true }, []⟩ := lost.exchange 50 .disconnect rfl
  exact left.exchange 50 .stopLoop rfl

theorem parted_vain : Parted vainHistory :=
  ⟨vainHistory.take 8, _, [.heard .stopLoop], .answered .stopLoop (.ofStatus .success), [], rfl, rfl, rfl, by decide⟩

/-- An engine of either kind that has no connection and refuses requests; the one with a network was let go of. -/
theorem reply_of_parted_destroyed :
    (∃ h s, Loopback.Lives (.fresh [] [] 0) h none s ∧ Parted h ∧
      (Loopback.engine.finish s 0 (.unsubscribe "news")).map Prod.fst = some ⟨.noConn, 0⟩) ∧
    ∃ h w, Lives .empty .unreachable h none w ∧ Parted h ∧ Destroyed h ∧
      (w.engine.finish .unreachable 0 (.unsubscribe "news")).map Prod.fst = some ⟨.noConn, 0⟩ := by
  constructor
  · let h : List (Incident (List Report ⊕ Loopback.Stir)) :=
      [.heard (.connect "broker" 1883 60), .answered (.connect "broker" 1883 60) (.ofStatus .success),
        .heard .disconnect, .answered .disconnect (.ofStatus .success), .heard .stopLoop,
        .answered .stopLoop (.ofStatus .success)]
    have new : Loopback.Lives (.fresh [] [] 0) [] none (.fresh [] [] 0) := .begin
    have joined : Loopback.Lives (.fresh [] [] 0) (h.take 2) none _ := new.exchange 0 (.connect "broker" 1883 60) rfl
    have left : Loopback.Lives (.fresh [] [] 0) (h.take 4) none _ := joined.exchange 0 .disconnect rfl
    have stopped : Loopback.Lives (.fresh [] [] 0) h none _ := left.exchange 0 .stopLoop rfl
    have parted : Parted h :=
      ⟨h.take 3, _, [.heard .stopLoop], .answered .stopLoop (.ofStatus .success), [], rfl, rfl, rfl, by decide⟩
    have refused := (reply_of_parted (c := .unsubscribe "news") rfl 0).1 [] 0 h none _ stopped parted
    exact ⟨_, _, stopped, parted, refused⟩
  · have life := lives_vain.exchange (r := .ofStatus .success) 50 .destroy rfl
    have parted : Parted (vainHistory ++ [.heard .destroy] ++ [.answered .destroy (.ofStatus .success)]) :=
      ⟨vainHistory.take 8, _, [.heard .stopLoop], .answered .stopLoop (.ofStatus .success), _, rfl, rfl, rfl, by decide⟩
    have destroyed : Destroyed (vainHistory ++ [.heard .destroy] ++ [.answered .destroy (.ofStatus .success)]) :=
      destroyed_concat.mpr (.inl rfl)
    have refused := ((reply_of_parted (c := .unsubscribe "news") rfl 0).2 .empty .unreachable _ none _ life parted).mpr
      (.inl destroyed)
    exact ⟨_, _, life, parted, destroyed, refused⟩

/-- A request that a network engine accepts although its owner has ended the connection. -/
theorem accepted_after_parting :
    ∃ h w, Lives .empty .unreachable h none w ∧ Parted h ∧
      (w.engine.finish .unreachable 50 (.publish "news" .empty .atLeastOnce false)).map Prod.fst = some ⟨.success, 1⟩ ∧
      (w.engine.finish .unreachable 50 (.publish "news" .empty .atLeastOnce false)).map Prod.fst ≠ some ⟨.noConn, 0⟩ :=
  ⟨_, _, lives_vain, parted_vain, rfl, nofun⟩

end

end BrokerSession
