import BrokerSession.Proofs.Loopback.Replies
import BrokerSession.Proofs.Session.Loopback
import BrokerSession.Proofs.Session.Serialization

/-!
# A session replayed on its loopback engine

What the loopback engine replies follows from its commands, and the commands of a session follow from its orders
and the replies. So the orders alone say what a session will tell a given engine and how its tickets will be
settled, and every run brings a part of that, whatever becomes of its events.

## Main definitions

* `Loopback.answers` - what the engine answers to the commands of a task
* `Loopback.tally` - jobs, each with what the engine answers when it does one after another
* `Session.Move.Calm` - the moves that leave the worker and the connection alone
* `Session.Replays` - the engine of a run is the one that was given the commands of the run and nothing else
* `Session.script`, `Session.settlement` - what the orders of a run say about its commands and its tickets

## Main results

* `Replays.after` - a run replays its commands
* `Books.script` - what was said and settled in a run is a part of what its orders say
-/

namespace BrokerSession

namespace Loopback

variable {v : Loopback} {task : Task} {a : Command → Reply}

/-- What the engine answers to the commands of a task that it is given now. -/
def answers (v : Loopback) (task : Task) (cmd : Command) : Reply :=
  match task.opening with
  | .command first =>
    if cmd = first then (v.carryOut first).1 else ((v.carryOut first).2.carryOut cmd).1
  | _ => .ofStatus .success

/-- Whoever finds the replies of the engine in the block of a task has found its block. -/
theorem block_of_replies (told : (task.block a).map a = v.replies (task.block a)) :
    task.block a = task.block (v.answers task) ∧ task.reply a = task.reply (v.answers task) := by
  cases task with
  | connect | reconnect =>
    simp only [Task.block] at told
    split at told <;> simp_all [Task.block, Task.reply, answers, Task.opening, replies]
  | disconnect | destroy => simp_all [Task.block, Task.reply, answers, Task.opening, replies]
  | publish | subscribe | unsubscribe =>
    simp only [Task.block] at told
    split at told <;> simp_all [Task.block, Task.reply, answers, Task.opening, replies]
  | mark => exact ⟨rfl, rfl⟩

/-- What was said of a job begins the block that the engine's own answers give it. -/
theorem block_prefix_of_talk {x : Exchange} {before : List Command} (talk : x.Talk a before)
    (told : before.map a = v.replies before) :
    before ++ [x.command] <+: x.job.task.block (v.answers x.job.task) := by
  suffices own : x.Talk (v.answers x.job.task) before from own.block_prefix
  cases talk with
  | opening opens => exact .opening opens
  | @startLoop job cmd due opens connects accepted =>
    have same : a cmd = (v.carryOut cmd).1 := (List.cons.inj told).1
    refine .startLoop opens connects ?_
    simp only [answers, opens, if_pos]
    rwa [← same]
  | @stopLoop job due ends =>
    have same : a .disconnect = (v.carryOut .disconnect).1 := (List.cons.inj told).1
    have answered : v.answers job.task .disconnect = a .disconnect := by
      obtain ⟨ticket, task⟩ := job
      cases task <;> simp_all [Task.disconnects, answers, Task.opening]
    rw [← answered]
    exact .stopLoop ends

/-- Jobs, each with what the engine answers when it does one after another. -/
def tally (v : Loopback) : List Job → List (Job × (Command → Reply))
  | [] => []
  | job :: jobs =>
    (job, v.answers job.task) :: (v.played (job.task.block (v.answers job.task))).tally jobs

@[simp] theorem tally_map_fst (v : Loopback) (jobs : List Job) : (v.tally jobs).map Prod.fst = jobs := by
  induction jobs generalizing v with
  | nil => rfl
  | cons job jobs ih => exact congrArg (job :: ·) (ih _)

theorem tally_append (v : Loopback) (jobs more : List Job) :
    v.tally (jobs ++ more) = v.tally jobs ++
      (v.played ((v.tally jobs).flatMap fun d => d.1.task.block d.2)).tally more := by
  induction jobs generalizing v with
  | nil => rfl
  | cons job jobs ih =>
    rw [List.cons_append, tally, tally, ih, List.flatMap_cons, played_append]
    rfl

theorem split_of_append_prefix {α : Type} {as as' bs bs' : List α} (h : as ++ bs <+: as' ++ bs')
    (even : as.length = as'.length) : as = as' ∧ bs <+: bs' := by
  obtain ⟨rest, eq⟩ := h
  rw [List.append_assoc] at eq
  obtain ⟨same, behind⟩ := List.append_inj eq even
  exact ⟨same, rest, behind⟩

/-- Whoever finds the replies of the engine in the blocks of some jobs has found the tally of these jobs. -/
theorem tally_of_replies {done : List (Job × (Command → Reply))} {got : List Reply}
    {said : List Command}
    (told : (done.flatMap fun d => (d.1.task.block d.2).map d.2) ++ got <+:
      v.replies ((done.flatMap fun d => d.1.task.block d.2) ++ said)) :
    (done.flatMap fun d => d.1.task.block d.2) =
        ((v.tally (done.map Prod.fst)).flatMap fun d => d.1.task.block d.2) ∧
      (done.filterMap fun d => d.1.outcome? d.2) =
        ((v.tally (done.map Prod.fst)).filterMap fun d => d.1.outcome? d.2) ∧
      got <+: (v.played (done.flatMap fun d => d.1.task.block d.2)).replies said := by
  induction done generalizing v with
  | nil => exact ⟨rfl, rfl, told⟩
  | cons d done ih =>
    obtain ⟨job, a⟩ := d
    simp only [List.flatMap_cons, List.append_assoc] at told
    rw [replies_append] at told
    obtain ⟨first, later⟩ := split_of_append_prefix told (by simp)
    obtain ⟨blocks, outcomes, rest⟩ := ih later
    obtain ⟨block, reply⟩ := block_of_replies first
    have outcome : job.outcome? a = job.outcome? (v.answers job.task) := by
      rw [Job.outcome?, Job.outcome?, reply]
    refine ⟨?_, ?_, ?_⟩
    · rw [List.flatMap_cons, blocks, List.map_cons, tally, List.flatMap_cons, ← block]
    · rw [List.filterMap_cons, outcome, outcomes, List.map_cons, tally, List.filterMap_cons, ← block]
    · rwa [List.flatMap_cons, played_append]

end Loopback

namespace Session

variable {c : Config} {v : Loopback} {s t : Session (Recorded Loopback)}

/-! ## Moves that leave the connection alone -/

/-- Whether a move leaves the worker and the connection alone, up to what the session asks for. A test may make
events up. -/
def Move.Calm : Move Loopback → Prop
  | .outside f => ∃ event, f = (·.inject event)
  | .crash => False
  | _ => True

theorem Move.Calm.recorded_ne_crash {m : Move Loopback} (calm : m.Calm) : m.recorded ≠ .crash := by
  cases m with
  | crash => exact calm.elim
  | _ => exact nofun

/-! ## What was said is replayed -/

/-- The engine of a run is, as far as commands can see, the one that was given the commands of the run and nothing
else. -/
structure Replays (v : Loopback) (s : Session (Recorded Loopback)) : Prop where
  calls : s.engine.inner.calls = v.calls ++ s.engine.heard.map .command
  free : s.exchange = none →
    s.engine.answered = v.replies s.engine.heard ∧
      (s.queue.worker = .alive → s.engine.inner.face = (v.played s.engine.heard).face)
  /-- A command that was heard and not answered is on record, and nothing else has come of it. -/
  busy : ∀ x, s.exchange = some x → ∃ earlier, s.engine.heard = earlier ++ [x.command] ∧
    s.engine.answered = v.replies earlier ∧
    s.engine.inner.face = ((v.played earlier).record (.command x.command)).face

namespace Replays

theorem attached (h : Replays v s) (listens : v.attached = true) {x : Exchange}
    (busy : s.exchange = some x) : s.engine.inner.attached = true := by
  obtain ⟨earlier, -, -, face⟩ := h.busy x busy
  have kept : (v.played earlier).attached = true := (Loopback.played_fields v earlier).1.trans listens
  exact (congrArg Loopback.attached face).trans kept

/-- What was answered so far is what the engine replies to what it has heard. -/
theorem answered_prefix (h : Replays v s) : s.engine.answered <+: v.replies s.engine.heard := by
  cases at_ : s.exchange with
  | none =>
    have even : s.engine.answered = v.replies s.engine.heard := (h.free at_).1
    exact even ▸ List.prefix_rfl
  | some x =>
    obtain ⟨earlier, heard, answered, -⟩ := h.busy x at_
    rw [heard, answered, Loopback.replies_append]
    exact List.prefix_append ..

/-- The engine hears a command. -/
theorem say {job : Job} {cmd : Command} {earlier : Option Status}
    (calls : s.engine.inner.calls = v.calls ++ s.engine.heard.map .command)
    (answered : s.engine.answered = v.replies s.engine.heard)
    (face : s.engine.inner.face = (v.played s.engine.heard).face) :
    Replays v (s.say Loopback.engine.recorded job cmd earlier) := by
  have same : (s.engine.inner.call cmd).face = ((v.played s.engine.heard).record (.command cmd)).face := by
    rw [Loopback.call_face, face, Loopback.record_face]
  refine ⟨?_, (fun free => by cases free), fun x new => ?_⟩
  · have recorded : (s.engine.inner.call cmd).calls = s.engine.inner.calls ++ [.command cmd] :=
      congrArg Loopback.calls (Loopback.call_face s.engine.inner cmd)
    simp only [Session.say, Engine.recorded, Loopback.engine, recorded, calls]
    simp
  · obtain rfl := Option.some.inj new
    exact ⟨s.engine.heard, rfl, answered, same⟩

/-- The engine answers as the replay says. -/
theorem answer (h : Replays v s) (listens : v.attached = true) {x : Exchange} {r : Reply}
    {engine : Recorded Loopback} (busy : s.exchange = some x)
    (answered : Loopback.engine.recorded.finish s.engine s.clock x.command = some (r, engine)) :
    engine.inner.calls = v.calls ++ engine.heard.map .command ∧
      engine.answered = v.replies engine.heard ∧
      engine.inner.face = (v.played engine.heard).face := by
  obtain ⟨inner, finished, rfl⟩ := Engine.finish_of_recorded answered
  obtain ⟨earlier, heard, before, face⟩ := h.busy x busy
  -- The engine of the run and the replayed one look alike, so they answer alike.
  obtain ⟨reply, alike, -⟩ := Loopback.answer_congr (h.attached listens busy) face x.command
  rw [Loopback.answer_of_finish finished] at reply alike
  have after : inner.face = (v.played s.engine.heard).face := by
    rw [heard, Loopback.played_append]
    exact alike
  refine ⟨?_, ?_, after⟩
  · exact (congrArg Loopback.calls after).trans (Loopback.played_fields v _).2
  · rw [before, heard, Loopback.replies_append]
    exact congrArg (fun r => v.replies earlier ++ [r]) reply

theorem workerStep (h : Replays v s) (listens : v.attached = true)
    (step : WorkerStep Loopback.engine.recorded s t) : Replays v t := by
  cases step with
  | dismiss free alive waits dismissed => exact ⟨h.calls, fun _ => h.free free, fun x busy => by cases busy⟩
  | begin free alive waits opens =>
    obtain ⟨answered, face⟩ := h.free free
    exact say h.calls answered (face alive)
  | retire free alive empty closed =>
    exact ⟨h.calls, fun _ => ⟨(h.free free).1, nofun⟩, fun x busy => by simp [free] at busy⟩
  | goOn busy answered follows =>
    obtain ⟨calls, before, face⟩ := h.answer listens busy answered
    exact say calls before face
  | finish busy answered follows =>
    obtain ⟨calls, before, face⟩ := h.answer listens busy answered
    exact ⟨calls, fun _ => ⟨before, fun _ => face⟩, fun y again => by cases again⟩

/-- What the engine does without a command changes nothing that commands can see. -/
theorem of_engine {inner : Loopback} (h : Replays v s) (face : inner.face = s.engine.inner.face) :
    Replays v { s with engine := { s.engine with inner } } := by
  refine ⟨(congrArg Loopback.calls face).trans h.calls, fun free => ?_, fun x busy => ?_⟩
  · exact ⟨(h.free free).1, fun alive => face.trans ((h.free free).2 alive)⟩
  · obtain ⟨earlier, heard, answered, same⟩ := h.busy x busy
    exact ⟨earlier, heard, answered, face.trans same⟩

theorem move {m : Move Loopback} (h : Replays v s) (listens : v.attached = true) (order : s.Orderly)
    (calm : m.Calm) (made : s.move? Loopback.engine.recorded c m.recorded = some t) : Replays v t := by
  cases m with
  | order o =>
    obtain rfl := Option.some.inj made
    cases here : s.tornDown with
    | true => rwa [obey_of_tornDown here]
    | false =>
      rw [obey_eq here (order.taking here)]
      exact ⟨h.calls, h.free, h.busy⟩
  | work => exact h.workerStep listens (workerStep_of_workerStep? made)
  | deliver =>
    obtain ⟨reports, engine, phase, journal, delivered, rfl⟩ := loopStep?_frame made
    obtain ⟨inner, taken, rfl⟩ := Engine.deliver_of_recorded delivered
    have told := h.of_engine (Loopback.face_of_deliver taken)
    exact ⟨told.calls, told.free, told.busy⟩
  | outside f =>
    obtain ⟨event, rfl⟩ := calm
    obtain rfl := Option.some.inj made
    exact h.of_engine (Loopback.emit_face s.engine.inner event)
  | close =>
    obtain ⟨-, rfl⟩ := eq_of_close made
    exact ⟨h.calls, h.free, h.busy⟩
  | pass millis | clearDirectory =>
    obtain rfl := Option.some.inj made
    exact ⟨h.calls, h.free, h.busy⟩
  | crash => exact calm.elim

/-- A run replays its commands. -/
theorem after {ms : List (Move Loopback)} (h : Replays v s) (listens : v.attached = true)
    (order : s.Orderly) (calm : ∀ m ∈ ms, m.Calm) :
    Replays v (s.after Loopback.engine.recorded c (ms.map Move.recorded)) := by
  refine (after_induction (P := fun u => u.Orderly ∧ Replays v u) ⟨order, h⟩ ?_).2
  intro t ⟨order, replays⟩ m among u made
  obtain ⟨n, given, rfl⟩ := List.mem_map.mp among
  have quiet := calm n given
  exact ⟨order.move quiet.recorded_ne_crash made, replays.move listens order quiet made⟩

theorem of_establish {hosted : Bool} {fs : Files} {env : Environment} {clientId : String}
    {wanted : List Notice.Kind} {directory : Directory Listener} {failures : List (String × Status)}
    {delays : List (String × Nat)} {code : Int} {engine : Loopback} {s : Session Loopback}
    (established : establish Loopback.engine hosted fs env c clientId wanted directory
      (.fresh failures delays code) = (.ok s, engine)) :
    s.engine.attached = true ∧ Replays s.engine s.recording := by
  obtain ⟨calls, unused⟩ := engine_of_establish established
  refine ⟨by rw [unused], (List.append_nil _).symm, fun _ => ⟨rfl, fun _ => rfl⟩, fun x busy => ?_⟩
  obtain ⟨staged, -, rfl⟩ := establish_eq_ok established
  cases busy

end Replays

/-! ## Orders say what is said -/

/-- The jobs of orders, each with what the engine answers when it does one after another. -/
def script (c : Config) (v : Loopback) (os : List Order) : List (Job × (Command → Reply)) :=
  v.tally (gather (Order.jobs c) false 0 os)

/-- How the tickets of orders are settled. -/
def settlement (c : Config) (v : Loopback) (os : List Order) : List (Ticket × Resolution) :=
  gather Order.instant false 0 os ++ (script c v os).filterMap fun d => d.1.outcome? d.2

theorem exists_turns_of_settlement (c : Config) (v : Loopback) (os : List Order) :
    ∃ turns : List Turn, turns.map Turn.order = os ∧
      (outcomes c false 0 turns).Perm (settlement c v os) := by
  obtain ⟨turns, orders, -, settled⟩ := exists_turns (c := c)
    (Loopback.tally_map_fst v (gather (Order.jobs c) false 0 os))
  exact ⟨turns, orders, settled⟩

theorem settlement_nodup (c : Config) (v : Loopback) (os : List Order) :
    ((settlement c v os).map Prod.fst).Nodup := by
  obtain ⟨turns, -, settled⟩ := exists_turns_of_settlement c v os
  exact (settled.map Prod.fst).nodup_iff.mp (outcomes_nodup turns false 0).1

theorem lookup_eq_some_of_mem {l : List (Ticket × Resolution)} {k : Ticket} {r : Resolution}
    (distinct : (l.map Prod.fst).Nodup) (held : (k, r) ∈ l) : l.lookup k = some r := by
  induction l with
  | nil => cases held
  | cons entry l ih =>
    obtain ⟨fresh, later⟩ := List.nodup_cons.mp (List.map_cons ▸ distinct)
    rcases List.mem_cons.mp held with rfl | behind
    · simp
    · have other : (k == entry.1) = false := by
        refine beq_false_of_ne fun same => fresh ?_
        rw [← same]
        exact List.mem_map.mpr ⟨_, behind, rfl⟩
      rw [List.lookup_cons, other]
      exact ih later behind

theorem mem_of_lookup_eq_some {l : List (Ticket × Resolution)} {k : Ticket} {r : Resolution}
    (found : l.lookup k = some r) : (k, r) ∈ l := by
  obtain ⟨before, behind, rfl, -⟩ := List.lookup_eq_some_iff.mp found
  exact List.mem_append_right _ List.mem_cons_self

/-- Two tables with the same entries say the same of every ticket. -/
theorem lookup_eq_of_perm {l l' : List (Ticket × Resolution)} (distinct : (l'.map Prod.fst).Nodup)
    (same : l.Perm l') (k : Ticket) : l.lookup k = l'.lookup k := by
  have distinct' : (l.map Prod.fst).Nodup := (same.map Prod.fst).nodup_iff.mpr distinct
  refine Option.ext fun r => ⟨fun found => ?_, fun found => ?_⟩
  · exact lookup_eq_some_of_mem distinct (same.subset (mem_of_lookup_eq_some found))
  · exact lookup_eq_some_of_mem distinct' (same.symm.subset (mem_of_lookup_eq_some found))

/-- In a run that replays its commands, what was said and settled is a part of what the orders say, and all of it
when the worker is idle. -/
theorem Books.script {os : List Order} {done : List (Job × (Command → Reply))} (books : Books c os done s)
    (replays : Replays v s) :
    s.engine.heard <+: ((Session.script c v os).flatMap fun d => d.1.task.block d.2) ∧
      (∀ k r, s.resolution? k = some r → (settlement c v os).lookup k = some r) ∧
      (s.queue.isIdle = true →
        s.engine.heard = ((Session.script c v os).flatMap fun d => d.1.task.block d.2) ∧
          ∀ k, s.resolution? k = (settlement c v os).lookup k) := by
  obtain ⟨said, got, underway, heard, answered⟩ := books.spoken
  have told := replays.answered_prefix
  rw [heard, answered] at told
  obtain ⟨blocks, outcomes, rest⟩ := Loopback.tally_of_replies told
  -- The script is what has been done, and then what the jobs that wait will come to.
  have parts : Session.script c v os = v.tally (done.map Prod.fst) ++
      (v.played (done.flatMap fun d => d.1.task.block d.2)).tally s.pending := by
    rw [blocks, ← Loopback.tally_append, books.jobs, Session.script]
  have resolved := books.resolved
  rw [outcomes] at resolved
  have settled : s.resolved.Subperm (settlement c v os) := by
    refine resolved.subperm.trans (List.Sublist.subperm ?_)
    refine List.Sublist.append_left ?_ _
    simp only [parts, List.filterMap_append]
    exact List.sublist_append_left ..
  have kept (k : Ticket) (r : Resolution) (found : s.resolution? k = some r) :
      (settlement c v os).lookup k = some r :=
    lookup_eq_some_of_mem (settlement_nodup c v os) (settled.subset (mem_of_lookup_eq_some found))
  refine ⟨?_, kept, fun idle => ?_⟩
  · rw [heard, parts, List.flatMap_append, ← blocks]
    refine (List.prefix_append_right_inj _).mpr ?_
    -- What the job at work has said so far is the beginning of its block.
    cases busy : s.exchange with
    | none =>
      obtain ⟨rfl, -⟩ := underway.eq_nil busy
      exact List.nil_prefix
    | some x =>
      obtain ⟨a, before, talk, rfl, rfl⟩ := underway.exists_talk busy
      rw [Loopback.replies_append, ← List.append_nil (before.map a)] at rest
      have same := (Loopback.split_of_append_prefix rest (by simp)).1
      have begun := Loopback.block_prefix_of_talk talk same
      rw [books.order.pending_of_busy busy, Loopback.tally, List.flatMap_cons]
      exact begun.trans (List.prefix_append ..)
  · -- An idle worker has no job left, so nothing of the script is missing.
    obtain ⟨backlog, active⟩ := (WorkQueue.isIdle_iff _).mp idle
    obtain ⟨rfl, -⟩ := underway.eq_nil (exchange_eq_none_of_idle books.order.working idle)
    have none : s.pending = [] := by rw [pending, backlog, active]; rfl
    rw [none, Loopback.tally, List.append_nil] at parts
    have all : s.resolved.Perm (settlement c v os) := by rwa [settlement, parts]
    refine ⟨?_, lookup_eq_of_perm (settlement_nodup c v os) all⟩
    rw [heard, parts, List.append_nil, blocks]

end Session

end BrokerSession
