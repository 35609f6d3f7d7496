import BrokerSession.Proofs.Session.Orderly
import BrokerSession.Proofs.Session.Recording
import Mathlib.Data.List.Perm.Subperm

/-!
# The commands of a session come one operation after another

Whatever an engine answers and however the steps of a run fall, the engine hears the commands of one operation after
another, in the order in which the operations were asked for. Each operation contributes one block: a connect is
followed by a start of the loop if it succeeds, a disconnect by a stop of the loop, a message by nothing, and an
operation that is refused contributes nothing. A session that is let go disconnects if it is meant to run, lets the
engine go, and says nothing more. Every ticket is settled at most once, with the answer to its own operation.

## Main definitions

* `Task.block`, `Task.reply` - the commands of a task, and its answer, given what the engine answers
* `Session.issued` - the orders of a run that were given while the owner had the session
* `Session.Turn`, `Session.transcript`, `Session.outcomes` - orders with the answers of the engine, what is said in
  them one after another, and how their tickets are settled
* `Session.Books` - the account of a run that every step keeps

## Main results

* `serialized` - what the engine has heard is a beginning of a transcript of the orders, and all of it when the
  worker is idle
-/

namespace BrokerSession

/-! ## Tasks -/

/-- The commands of a task, given what the engine answers to each of them. -/
def Task.block (a : Command → Reply) : Task → List Command
  | connect host port keepAlive =>
    .connect host port keepAlive ::
      if (a (.connect host port keepAlive)).status.isSuccess then [.startLoop] else []
  | reconnect => .reconnect :: if (a .reconnect).status.isSuccess then [.startLoop] else []
  | disconnect _ => [.disconnect, .stopLoop]
  | publish topic payload qos retain =>
    if (Topic.nameFault? topic).isSome then [] else [.publish topic payload qos retain]
  | subscribe filters qos => if subscribable filters then [.subscribe filters qos] else []
  | unsubscribe filter => if (Topic.filterFault? filter).isSome then [] else [.unsubscribe filter]
  | mark => []
  | destroy => [.destroy]

/-- The answer to a task, given what the engine answers to its commands. -/
def Task.reply (a : Command → Reply) : Task → Reply
  | connect host port keepAlive =>
    .ofStatus <|
      if (a (.connect host port keepAlive)).status.isSuccess then (a .startLoop).status
      else (a (.connect host port keepAlive)).status
  | reconnect =>
    .ofStatus <|
      if (a .reconnect).status.isSuccess then (a .startLoop).status else (a .reconnect).status
  | disconnect _ => .ofStatus (a .disconnect).status
  | publish topic payload qos retain =>
    if (Topic.nameFault? topic).isSome then .ofStatus .inval
    else a (.publish topic payload qos retain)
  | subscribe filters qos =>
    if subscribable filters then a (.subscribe filters qos) else .ofStatus .inval
  | unsubscribe filter =>
    if (Topic.filterFault? filter).isSome then .ofStatus .inval else a (.unsubscribe filter)
  | mark => .ofStatus .success
  | destroy => a .destroy

/-- How the ticket of a job is settled, if it has one, given what the engine answers. -/
def Job.outcome? (a : Command → Reply) (job : Job) : Option (Ticket × Resolution) :=
  job.ticket.map (·, .answered (job.task.reply a))

theorem Task.block_of_dismissal? {task : Task} {r : Reply} (a : Command → Reply)
    (dismissed : task.opening.dismissal? = some r) : task.block a = [] ∧ task.reply a = r := by
  cases task <;> simp only [opening] at dismissed <;>
    grind [block, reply, Opening.dismissal?]

/-- What was said of a job is a beginning of its block. -/
theorem Exchange.Talk.block_prefix {a : Command → Reply} {x : Exchange} {before : List Command}
    (talk : x.Talk a before) : before ++ [x.command] <+: x.job.task.block a := by
  cases talk with
  | @opening job cmd due opens =>
    obtain ⟨ticket, task⟩ := job
    cases task <;> simp only [Task.opening] at opens <;> grind [Task.block]
  | @startLoop job cmd due opens connects accepted =>
    obtain ⟨ticket, task⟩ := job
    cases task <;> simp only [Task.opening] at opens <;> grind [Task.block, Task.connects]
  | @stopLoop job due ends =>
    obtain ⟨ticket, task⟩ := job
    cases task <;> simp_all [Task.block, Task.disconnects]

/-- After the last answer what was said of a job is its block, and the job has its answer. -/
theorem Exchange.Talk.block_eq {a : Command → Reply} {x : Exchange} {before : List Command}
    {r reply : Reply} (talk : x.Talk a before) (follows : x.sequel r = .done reply) :
    x.job.task.block (Function.update a x.command r) = before ++ [x.command] ∧
      x.job.task.reply (Function.update a x.command r) = reply := by
  cases talk with
  | @opening job cmd due opens =>
    obtain ⟨ticket, task⟩ := job
    cases task <;> simp only [Task.opening] at opens <;>
      grind [Task.block, Task.reply, sequel, Function.update_self]
  | @startLoop job cmd due opens connects accepted =>
    obtain ⟨ticket, task⟩ := job
    have other : cmd ≠ .startLoop := (Task.opening_ne_loop opens).1
    cases task <;> simp only [Task.opening] at opens <;>
      grind [Task.block, Task.reply, sequel, Task.connects, Function.update_self, Function.update_of_ne]
  | @stopLoop job due ends =>
    obtain ⟨ticket, task⟩ := job
    cases task <;> simp_all [Task.block, Task.reply, Task.disconnects, sequel]

namespace Session

variable {σ : Type} {e : Engine σ} {c : Config}

/-! ## Orders with the answers of the engine -/

/-- The orders that were given so far, after one more move. An owner that has let the session go gives no more. -/
def addOrder (os : List Order) : Move σ → List Order
  | .order o => if os.any Order.isLetGo then os else os ++ [o]
  | _ => os

/-- The orders of a run that were given while the owner had the session. -/
def issued (ms : List (Move σ)) : List Order := ms.foldl addOrder []

/-- An order, with what the engine answers to its commands. -/
structure Turn where
  order : Order
  answer : Command → Reply

/-- The block of commands of an order, each with its answer, given whether the session is meant to run. -/
def Turn.dialogue (c : Config) (running : Bool) (turn : Turn) : List (Command × Reply) :=
  (turn.order.tasks c running).flatMap fun task =>
    (task.block turn.answer).map fun cmd => (cmd, turn.answer cmd)

/-- How the ticket of an order is settled, if it has one. -/
def Turn.outcomes (c : Config) (running : Bool) (ticket : Ticket) (turn : Turn) :
    List (Ticket × Resolution) :=
  turn.order.instant running ticket ++
    (turn.order.jobs c running ticket).filterMap (Job.outcome? turn.answer)

/-- What is said in the course of orders, one block after another. -/
def transcript (c : Config) : Bool → List Turn → List (Command × Reply)
  | _, [] => []
  | running, turn :: turns =>
    turn.dialogue c running ++ transcript c (turn.order.runs running) turns

/-- How the tickets of orders are settled, the first of them under a given number. -/
def outcomes (c : Config) : Bool → Ticket → List Turn → List (Ticket × Resolution)
  | _, _, [] => []
  | running, ticket, turn :: turns =>
    turn.outcomes c running ticket ++
      outcomes c (turn.order.runs running) (ticket + turn.order.draws running) turns

/-! ## The end of a transcript -/

theorem issued_pairwise (ms : List (Move σ)) :
    (issued ms).Pairwise fun earlier _ => earlier.isLetGo = false := by
  -- The induction is on the moves, after any orders that were given before.
  suffices kept : ∀ os : List Order, (os.Pairwise fun earlier _ => earlier.isLetGo = false) →
      (ms.foldl addOrder os).Pairwise fun earlier _ => earlier.isLetGo = false from
    kept [] List.Pairwise.nil
  induction ms with
  | nil => exact fun os h => h
  | cons m ms ih =>
    intro os h
    refine ih _ ?_
    cases m with
    | order o =>
      simp only [addOrder]
      split
      · exact h
      · rename_i present
        refine List.pairwise_append.mpr ⟨h, List.pairwise_singleton .., fun earlier old _ _ => ?_⟩
        by_contra gone
        exact present (List.any_eq_true.mpr ⟨earlier, old, by simpa using gone⟩)
    | _ => exact h

theorem Task.destroy_notMem_block {a : Command → Reply} {task : Task} (kept : task ≠ .destroy) :
    Command.destroy ∉ task.block a := by
  cases task with
  | destroy => exact absurd rfl kept
  | _ => simp only [Task.block]; grind

theorem Turn.destroy_notMem {turn : Turn} {running : Bool} (stays : turn.order.isLetGo = false) :
    Command.destroy ∉ (turn.dialogue c running).map Prod.fst := by
  intro heard
  simp only [dialogue, List.map_flatMap, List.map_map, Function.comp_def, List.map_id',
    List.mem_flatMap] at heard
  obtain ⟨task, brought, heard⟩ := heard
  refine Task.destroy_notMem_block ?_ heard
  rintro rfl
  exact Order.destroy_notMem_tasks stays brought

theorem Turn.dialogue_pairwise (turn : Turn) (running : Bool) :
    ((turn.dialogue c running).map Prod.fst).Pairwise fun earlier _ => earlier ≠ .destroy := by
  cases letGo : turn.order.isLetGo with
  | false =>
    refine List.pairwise_iff_forall_sublist.mpr fun {a b} sub last => ?_
    exact Turn.destroy_notMem letGo (last ▸ sub.subset List.mem_cons_self)
  | true =>
    obtain ⟨order, answer⟩ := turn
    cases order with
    | letGo => cases running <;> simp [dialogue, Order.tasks, Task.block]
    | _ => cases letGo

/-- Letting the engine go is the last word of a transcript. -/
theorem transcript_pairwise {turns : List Turn}
    (last : (turns.map Turn.order).Pairwise fun earlier _ => earlier.isLetGo = false)
    (running : Bool) :
    ((transcript c running turns).map Prod.fst).Pairwise fun earlier _ => earlier ≠ .destroy := by
  induction turns generalizing running with
  | nil => exact List.Pairwise.nil
  | cons turn turns ih =>
    rw [List.map_cons, List.pairwise_cons] at last
    rw [transcript, List.map_append]
    refine List.pairwise_append.mpr ⟨turn.dialogue_pairwise running, ih last.2 _, ?_⟩
    intro earlier heard later follows
    -- An order with another one behind it does not let the session go.
    cases turns with
    | nil => cases follows
    | cons next turns =>
      have stays := last.1 next.order List.mem_cons_self
      exact fun gone => Turn.destroy_notMem stays (gone ▸ heard)

/-! ## Tickets -/

theorem Turn.outcomes_ticket (turn : Turn) (running : Bool) (ticket : Ticket) :
    (turn.outcomes c running ticket).map Prod.fst = List.replicate (turn.order.draws running) ticket := by
  obtain ⟨order, answer⟩ := turn
  cases order with
  | request op =>
    cases op with
    | disconnect =>
      cases running <;>
        simp [outcomes, Order.instant, Order.jobs, Order.tasks, Order.draws, Job.outcome?]
    | _ => simp [outcomes, Order.instant, Order.jobs, Order.tasks, Order.draws, Job.outcome?]
  | mark => simp [outcomes, Order.instant, Order.jobs, Order.tasks, Order.draws, Job.outcome?]
  | letGo =>
    cases running <;>
      simp [outcomes, Order.instant, Order.jobs, Order.tasks, Order.draws, Job.outcome?]

/-- No two outcomes have the same ticket. -/
theorem outcomes_nodup (turns : List Turn) (running : Bool) (ticket : Ticket) :
    ((outcomes c running ticket turns).map Prod.fst).Nodup ∧
      ∀ t ∈ (outcomes c running ticket turns).map Prod.fst, ticket ≤ t := by
  induction turns generalizing running ticket with
  | nil => exact ⟨List.nodup_nil, fun t ht => by cases ht⟩
  | cons turn turns ih =>
    obtain ⟨distinct, above⟩ := ih (turn.order.runs running) (ticket + turn.order.draws running)
    have single : turn.order.draws running ≤ 1 := by
      cases turn.order <;> simp only [Order.draws] <;> grind
    rw [Session.outcomes, List.map_append, Turn.outcomes_ticket]
    refine ⟨List.nodup_append.mpr ⟨?_, distinct, ?_⟩, fun t ht => ?_⟩
    · exact List.nodup_replicate.mpr single
    · -- Every later ticket is above the one that this order has drawn.
      intro t own u later same
      obtain ⟨drawn, rfl⟩ := List.mem_replicate.mp own
      have behind := above u later
      rw [← same] at behind
      exact drawn (Nat.add_eq_left.mp (Nat.le_antisymm behind (Nat.le_add_right ..)))
    · rcases List.mem_append.mp ht with own | later
      · exact Nat.le_of_eq (List.mem_replicate.mp own).2.symm
      · exact Nat.le_trans (Nat.le_add_right ..) (above t later)

/-! ## What orders bring, one after another -/

/-- What orders bring, given whether the session is meant to run at each of them and which ticket is the next. -/
def gather {β : Type} (f : Bool → Ticket → Order → List β) : Bool → Ticket → List Order → List β
  | _, _, [] => []
  | running, ticket, o :: os =>
    f running ticket o ++ gather f (o.runs running) (ticket + o.draws running) os

/-- The next ticket after orders. -/
def drawn : Bool → Ticket → List Order → Ticket
  | _, ticket, [] => ticket
  | running, ticket, o :: os => drawn (o.runs running) (ticket + o.draws running) os

theorem gather_concat {β : Type} (f : Bool → Ticket → Order → List β) (running : Bool)
    (ticket : Ticket) (os : List Order) (o : Order) :
    gather f running ticket (os ++ [o]) =
      gather f running ticket os ++ f (os.foldl Order.runs running) (drawn running ticket os) o := by
  induction os generalizing running ticket with
  | nil => simp [gather, drawn]
  | cons first os ih =>
    rw [List.cons_append, gather, ih, gather, List.append_assoc]
    rfl

theorem drawn_concat (running : Bool) (ticket : Ticket) (os : List Order) (o : Order) :
    drawn running ticket (os ++ [o]) =
      drawn running ticket os + o.draws (os.foldl Order.runs running) := by
  induction os generalizing running ticket with
  | nil => rfl
  | cons first os ih => exact ih ..

/-! ## The account of a run -/

/-- What was said of the job at work so far, and what was answered. -/
def Underway (s : Session σ) (said : List Command) (got : List Reply) : Prop :=
  match s.exchange with
  | none => said = [] ∧ got = []
  | some x => ∃ a before, x.Talk a before ∧ said = before ++ [x.command] ∧ got = before.map a

theorem Underway.eq_nil {s : Session σ} {said : List Command} {got : List Reply}
    (underway : s.Underway said got) (free : s.exchange = none) : said = [] ∧ got = [] := by
  rw [Underway, free] at underway
  exact underway

theorem Underway.exists_talk {s : Session σ} {x : Exchange} {said : List Command} {got : List Reply}
    (underway : s.Underway said got) (busy : s.exchange = some x) :
    ∃ a before, x.Talk a before ∧ said = before ++ [x.command] ∧ got = before.map a := by
  rw [Underway, busy] at underway
  exact underway

/-- The account of a run in which some orders were given and some jobs are done, each with what the engine answered
to its commands. -/
structure Books (c : Config) (os : List Order) (done : List (Job × (Command → Reply)))
    (s : Session (Recorded σ)) : Prop where
  order : s.Orderly
  running : s.standing.running = os.foldl Order.runs false
  tornDown : s.tornDown = os.any Order.isLetGo
  tickets : s.nextTicket = drawn false 0 os
  /-- The jobs that are done and those that remain are the jobs of the orders. -/
  jobs : done.map Prod.fst ++ s.pending = gather (Order.jobs c) false 0 os
  /-- The engine has heard and answered the blocks of the jobs that are done, and a part of the next one. -/
  spoken : ∃ said got, s.Underway said got ∧
    s.engine.heard = (done.flatMap fun d => d.1.task.block d.2) ++ said ∧
    s.engine.answered = (done.flatMap fun d => (d.1.task.block d.2).map d.2) ++ got
  /-- The tickets of the jobs that are done are settled, and those that need no job. -/
  resolved : s.resolved.Perm
    (gather Order.instant false 0 os ++ done.filterMap fun d => d.1.outcome? d.2)

namespace Books

variable {s t : Session (Recorded σ)} {os : List Order} {done : List (Job × (Command → Reply))}

theorem obey (h : Books c os done s) (o : Order) :
    Books c (if os.any Order.isLetGo then os else os ++ [o]) done (s.obey c o) := by
  have order := h.order.obey (c := c) o
  cases here : s.tornDown with
  | true =>
    rw [obey_of_tornDown here, ← h.tornDown, here]
    exact h
  | false =>
    rw [← h.tornDown, here]
    rw [obey_eq here (h.order.taking here)] at order ⊢
    refine ⟨order, ?_, ?_, ?_, ?_, h.spoken, ?_⟩
    · simp [Order.standing_running, h.running]
    · have present : os.any Order.isLetGo = false := h.tornDown ▸ here
      simp [present]
    · simp [drawn_concat, h.tickets, h.running]
    · simp [gather_concat, pending, ← h.jobs, h.tickets, h.running]
    · have settled := h.resolved.append_right (o.instant s.standing.running s.nextTicket)
      simp only [Bool.false_eq_true, if_false, gather_concat, ← h.tickets, ← h.running]
      refine settled.trans ?_
      rw [List.append_assoc, List.append_assoc]
      exact List.perm_append_comm.append_left _

theorem map_update {a : Command → Reply} {cmd : Command} {r : Reply} {before : List Command}
    (new : cmd ∉ before) :
    (before ++ [cmd]).map (Function.update a cmd r) = before.map a ++ [r] := by
  rw [List.map_append, List.map_cons, Function.update_self]
  congr 1
  refine List.map_congr_left fun old hold => Function.update_of_ne ?_ _ _
  rintro rfl
  exact new hold

theorem settle (h : Books c os done s) {job : Job} {a : Command → Reply} {reply : Reply}
    (settles : job.task.reply a = reply) :
    (s.resolve job.ticket (.answered reply)).resolved.Perm
      (gather Order.instant false 0 os ++ (done ++ [(job, a)]).filterMap fun d => d.1.outcome? d.2) := by
  have last : [(job, a)].filterMap (fun d => d.1.outcome? d.2) =
      (job.ticket.map (·, Resolution.answered reply)).toList := by
    rw [← settles]
    cases h : job.ticket <;> simp [Job.outcome?, h]
  rw [List.filterMap_append, ← List.append_assoc, last]
  exact h.resolved.append_right _

theorem workerStep (h : Books c os done s) (step : WorkerStep e.recorded s t) :
    ∃ done', Books c os done' t := by
  have order := h.order.workerStep step
  have running := step.running.trans h.running
  obtain ⟨said, got, underway, heard, answered⟩ := h.spoken
  cases step with
  | @dismiss job rest reply free alive waits dismissed =>
    -- The job is done without a command, so it does not matter what the engine would have answered.
    obtain ⟨block, settles⟩ := Task.block_of_dismissal? (fun _ => ⟨.success, 0⟩) dismissed
    obtain ⟨rfl, rfl⟩ := underway.eq_nil free
    refine ⟨done ++ [(job, fun _ => ⟨.success, 0⟩)], order, running, h.tornDown, h.tickets, ?_,
      ⟨[], [], ⟨rfl, rfl⟩, ?_, ?_⟩, ?_⟩
    · rw [← h.jobs, h.order.pending_of_free free, waits]
      simp [pending, complete, WorkQueue.finish]
    · simpa [complete, resolve, block] using heard
    · simpa [complete, resolve, block] using answered
    · exact h.settle settles
  | @begin job rest cmd free alive waits opens =>
    obtain ⟨rfl, rfl⟩ := underway.eq_nil free
    refine ⟨done, order, running, h.tornDown, h.tickets, ?_,
      ⟨[cmd], [], ⟨fun _ => ⟨.success, 0⟩, [], .opening opens, rfl, rfl⟩, ?_, ?_⟩, h.resolved⟩
    · rw [← h.jobs, h.order.pending_of_free free, waits]
      rfl
    · simp [say, Engine.recorded, heard]
    · simpa [say, Engine.recorded] using answered
  | retire free alive empty closed =>
    exact ⟨done, order, running, h.tornDown, h.tickets, h.jobs, ⟨said, got, underway, heard, answered⟩,
      h.resolved⟩
  | @goOn x r engine cmd earlier busy finished follows =>
    obtain ⟨a, before, talk, rfl, rfl⟩ := underway.exists_talk busy
    obtain ⟨⟨r', inner⟩, -, eq⟩ := Option.map_eq_some_iff.mp finished
    cases eq
    refine ⟨done, order, running, h.tornDown, h.tickets, h.jobs,
      ⟨before ++ [x.command] ++ [cmd], before.map a ++ [r],
        ⟨_, _, talk.say follows _, rfl, (map_update talk.command_notMem).symm⟩, ?_, ?_⟩, h.resolved⟩
    · simp [say, heed, Engine.recorded, heard]
    · simp [say, heed, Engine.recorded, answered]
  | @finish x r engine reply busy finished follows =>
    obtain ⟨a, before, talk, rfl, rfl⟩ := underway.exists_talk busy
    obtain ⟨⟨r', inner⟩, -, eq⟩ := Option.map_eq_some_iff.mp finished
    cases eq
    obtain ⟨block, settles⟩ := talk.block_eq follows
    -- The job is done, and the last of its answers is the one that has just come.
    refine ⟨done ++ [(x.job, Function.update a x.command r)], order, running, h.tornDown, h.tickets,
      ?_, ⟨[], [], ⟨rfl, rfl⟩, ?_, ?_⟩, ?_⟩
    · rw [← h.jobs, h.order.pending_of_busy busy]
      simp [pending, complete, resolve, heed, WorkQueue.finish]
    · simpa [complete, resolve, heed, block] using heard
    · have replies := map_update (a := a) (r := r) talk.command_notMem
      simp [complete, resolve, heed, block, replies, answered]
    · exact h.settle settles

theorem move {m : Move σ} (h : Books c os done s) (sound : m ≠ .crash) :
    ∃ done', Books c (addOrder os m) done' (s.move e.recorded c m.recorded) := by
  have sound' : m.recorded ≠ .crash := by
    cases m with
    | crash => exact absurd rfl sound
    | _ => intro crash; cases crash
  have entered {t : Session (Recorded σ)} (made : s.move? e.recorded c m.recorded = some t) :
      ∃ done', Books c (addOrder os m) done' t := by
    have order : t.Orderly := h.order.move sound' made
    cases m with
    | order o =>
      obtain rfl := Option.some.inj made
      exact ⟨done, h.obey o⟩
    | close =>
      obtain ⟨-, rfl⟩ := eq_of_close made
      exact ⟨done, order, h.running, h.tornDown, h.tickets, h.jobs, h.spoken, h.resolved⟩
    | work => exact h.workerStep (workerStep_of_workerStep? made)
    | deliver =>
      obtain ⟨reports, engine, phase, journal, delivered, rfl⟩ := loopStep?_frame made
      obtain ⟨⟨reports', inner⟩, -, eq⟩ := Option.map_eq_some_iff.mp delivered
      cases eq
      exact ⟨done, order, h.running, h.tornDown, h.tickets, h.jobs, h.spoken, h.resolved⟩
    | pass millis | outside f | clearDirectory =>
      obtain rfl := Option.some.inj made
      exact ⟨done, order, h.running, h.tornDown, h.tickets, h.jobs, h.spoken, h.resolved⟩
    | crash => exact absurd rfl sound
  unfold Session.move
  cases made : s.move? e.recorded c m.recorded with
  | some t => exact entered made
  | none =>
    -- An order can always be given, so what is passed over brings no order.
    cases m with
    | order o => cases made
    | _ => exact ⟨done, h⟩

theorem after {ms : List (Move σ)} (h : Books c os done s) (sound : .crash ∉ ms) :
    ∃ done', Books c (ms.foldl addOrder os) done' (s.after e.recorded c (ms.map Move.recorded)) := by
  induction ms generalizing s os done with
  | nil => exact ⟨done, h⟩
  | cons m ms ih =>
    obtain ⟨first, rest⟩ := not_or.mp (List.mem_cons.not.mp sound)
    obtain ⟨done', moved⟩ := h.move (e := e) fun crash => first crash.symm
    exact ih moved rest

theorem of_establish {hosted : Bool} {fs : Files} {env : Environment} {clientId : String}
    {wanted : List Notice.Kind} {directory : Directory Listener} {engine engine' : σ}
    {s : Session σ}
    (established : establish e hosted fs env c clientId wanted directory engine = (.ok s, engine')) :
    Books c [] [] s.recording := by
  obtain ⟨working, talking, taking, running, resting⟩ := orderly_of_establish established
  obtain ⟨staged, -, rfl⟩ := establish_eq_ok established
  exact ⟨⟨working, talking, taking, running, resting⟩, rfl, rfl, rfl, rfl,
    ⟨[], [], ⟨rfl, rfl⟩, rfl, rfl⟩, List.Perm.refl _⟩

end Books

/-! ## From jobs to orders -/

/-- Jobs of one order, each with what the engine answers, make a turn. -/
theorem exists_turn {o : Order} {running : Bool} {ticket : Ticket}
    {part : List (Job × (Command → Reply))} (h : part.map Prod.fst = o.jobs c running ticket) :
    ∃ turn : Turn, turn.order = o ∧
      turn.dialogue c running =
        part.flatMap (fun d => (d.1.task.block d.2).map fun cmd => (cmd, d.2 cmd)) ∧
      turn.outcomes c running ticket =
        o.instant running ticket ++ part.filterMap fun d => d.1.outcome? d.2 := by
  rcases part with _ | ⟨⟨job, a⟩, _ | ⟨⟨job', b⟩, more⟩⟩
  · have none := List.map_eq_nil_iff.mp (show (o.tasks c running).map _ = [] from h.symm)
    refine ⟨⟨o, fun _ => ⟨.success, 0⟩⟩, rfl, ?_, ?_⟩
    · simp [Turn.dialogue, none]
    · rw [Turn.outcomes, ← h]
      rfl
  · obtain ⟨task, one, rfl⟩ :=
      List.map_eq_singleton_iff.mp (show (o.tasks c running).map _ = [job] from h.symm)
    refine ⟨⟨o, a⟩, rfl, ?_, ?_⟩
    · simp [Turn.dialogue, one]
    · rw [Turn.outcomes, ← h]
      rfl
  · -- Only letting a running session go brings two jobs, and their commands are different ones.
    cases o with
    | request op =>
      cases op <;> cases running <;> simp [Order.jobs, Order.tasks] at h
    | mark => simp [Order.jobs, Order.tasks] at h
    | letGo =>
      cases running with
      | false => simp [Order.jobs, Order.tasks] at h
      | true =>
        simp only [Order.jobs, Order.tasks, if_true, List.map_cons, List.map_nil, List.cons.injEq,
          List.map_eq_nil_iff] at h
        obtain ⟨rfl, rfl, rfl⟩ := h
        refine ⟨⟨.letGo, fun cmd => if cmd = .destroy then b cmd else a cmd⟩, rfl, ?_, ?_⟩
        · simp [Turn.dialogue, Order.tasks, Task.block]
        · simp [Turn.outcomes, Order.jobs, Order.tasks, Job.outcome?, Task.reply]

theorem exists_turns {os : List Order} {running : Bool} {ticket : Ticket}
    {full : List (Job × (Command → Reply))}
    (h : full.map Prod.fst = gather (Order.jobs c) running ticket os) :
    ∃ turns : List Turn, turns.map Turn.order = os ∧
      transcript c running turns =
        full.flatMap (fun d => (d.1.task.block d.2).map fun cmd => (cmd, d.2 cmd)) ∧
      (outcomes c running ticket turns).Perm
        (gather Order.instant running ticket os ++ full.filterMap fun d => d.1.outcome? d.2) := by
  induction os generalizing running ticket full with
  | nil =>
    obtain rfl := List.map_eq_nil_iff.mp h
    exact ⟨[], rfl, rfl, List.Perm.refl _⟩
  | cons o os ih =>
    obtain ⟨part, later, rfl, own, rest⟩ := List.map_eq_append_iff.mp h
    obtain ⟨turn, rfl, said, settled⟩ := exists_turn own
    obtain ⟨turns, rfl, said', settled'⟩ := ih rest
    refine ⟨turn :: turns, rfl, ?_, ?_⟩
    · rw [transcript, said, said', List.flatMap_append]
    · rw [Session.outcomes, settled, gather, List.filterMap_append]
      refine (settled'.append_left _).trans ?_
      simp only [List.append_assoc]
      refine List.Perm.append_left _ ?_
      rw [← List.append_assoc, ← List.append_assoc]
      exact List.perm_append_comm.append_right _

/-! ## Runs -/

/-- What was said and answered so far is a beginning of what the jobs that remain may bring. -/
theorem Underway.exists_rest {s : Session σ} {said : List Command} {got : List Reply}
    (underway : s.Underway said got) (order : s.Orderly) :
    ∃ rest : List (Job × (Command → Reply)), rest.map Prod.fst = s.pending ∧
      said <+: (rest.flatMap fun d => d.1.task.block d.2) ∧
      got <+: (rest.flatMap fun d => (d.1.task.block d.2).map d.2) := by
  have unanswered (jobs : List Job) :
      (jobs.map fun job => (job, fun _ : Command => Reply.ofStatus .success)).map Prod.fst = jobs := by
    rw [List.map_map]
    exact List.map_id jobs
  cases busy : s.exchange with
  | none =>
    obtain ⟨rfl, rfl⟩ := underway.eq_nil busy
    exact ⟨_, unanswered s.pending, List.nil_prefix, List.nil_prefix⟩
  | some x =>
    obtain ⟨a, before, talk, rfl, rfl⟩ := underway.exists_talk busy
    have begun := talk.block_prefix
    refine ⟨(x.job, a) :: s.queue.backlog.map fun job => (job, fun _ => Reply.ofStatus .success), ?_,
      ?_, ?_⟩
    · rw [order.pending_of_busy busy, List.map_cons, unanswered]
    · rw [List.flatMap_cons]
      exact begun.trans (List.prefix_append ..)
    · rw [List.flatMap_cons]
      have replies := ((List.prefix_append before [x.command]).trans begun).map a
      exact replies.trans (List.prefix_append ..)

/-- In every run without a crash, over every engine: what the engine has heard is a beginning of the blocks of the
orders that were issued, one after another, and all of them when the worker is idle. What it answered goes with it.
A command that lets the engine go is the last one. Every ticket is settled at most once, as the answers to the
commands of its own order say, and all of them are when the worker is idle. Whether the session disconnects when it
is asked to, or let go, is up to the connects and disconnects before. -/
theorem serialized {hosted : Bool} {fs : Files} {env : Environment} {clientId : String}
    {wanted : List Notice.Kind} {directory : Directory Listener} {engine engine' : σ}
    {s : Session σ}
    (established : establish e hosted fs env c clientId wanted directory engine = (.ok s, engine'))
    (ms : List (Move σ)) (sound : .crash ∉ ms) :
    let t := s.recording.after e.recorded c (ms.map Move.recorded)
    t.plain = s.after e c ms ∧
      t.standing.running = (issued ms).foldl Order.runs false ∧
      (t.engine.heard.Pairwise fun earlier _ => earlier ≠ .destroy) ∧
      (t.resolved.map Prod.fst).Nodup ∧
      ∃ turns : List Turn, turns.map Turn.order = issued ms ∧
        t.engine.heard <+: (transcript c false turns).map Prod.fst ∧
        t.engine.answered <+: (transcript c false turns).map Prod.snd ∧
        t.resolved.Subperm (outcomes c false 0 turns) ∧
        (t.queue.isIdle = true →
          t.engine.heard = (transcript c false turns).map Prod.fst ∧
          t.engine.answered = (transcript c false turns).map Prod.snd ∧
          t.resolved.Perm (outcomes c false 0 turns)) := by
  intro t
  obtain ⟨done, books⟩ := (Books.of_establish established).after (e := e) sound
  obtain ⟨said, got, underway, heard, answered⟩ := books.spoken
  -- The jobs that remain are given answers that they may get, and then all jobs together make turns.
  obtain ⟨rest, remain, begun, replied⟩ := underway.exists_rest books.order
  have all : (done ++ rest).map Prod.fst = gather (Order.jobs c) false 0 (issued ms) := by
    rw [List.map_append, remain]
    exact books.jobs
  obtain ⟨turns, orders, spoken, settled⟩ := exists_turns all
  have firsts : (transcript c false turns).map Prod.fst =
      (done.flatMap fun d => d.1.task.block d.2) ++ rest.flatMap fun d => d.1.task.block d.2 := by
    rw [spoken, List.map_flatMap, List.flatMap_append]
    simp [Function.comp_def]
  have seconds : (transcript c false turns).map Prod.snd =
      (done.flatMap fun d => (d.1.task.block d.2).map d.2) ++
        rest.flatMap fun d => (d.1.task.block d.2).map d.2 := by
    rw [spoken, List.map_flatMap, List.flatMap_append]
    simp [Function.comp_def]
  have beginning : t.engine.heard <+: (transcript c false turns).map Prod.fst := by
    rw [show t.engine.heard = _ from heard, firsts]
    exact (List.prefix_append_right_inj _).mpr begun
  have resolved : t.resolved.Subperm (outcomes c false 0 turns) := by
    rw [List.filterMap_append, ← List.append_assoc] at settled
    exact ((books.resolved.subperm).trans (List.sublist_append_left ..).subperm).trans
      settled.symm.subperm
  have last := transcript_pairwise (c := c) (orders ▸ issued_pairwise ms) false
  refine ⟨plain_after ms, books.running, last.sublist beginning.sublist, ?_, turns, orders, beginning,
    ?_, resolved, fun idle => ?_⟩
  · obtain ⟨part, same, sub⟩ := resolved
    exact (same.map Prod.fst).nodup_iff.mp ((outcomes_nodup turns false 0).1.sublist (sub.map Prod.fst))
  · rw [show t.engine.answered = _ from answered, seconds]
    exact (List.prefix_append_right_inj _).mpr replied
  · -- An idle worker has no job left, so nothing of the transcript is missing.
    obtain ⟨backlog, active⟩ := (WorkQueue.isIdle_iff _).mp idle
    obtain rfl : rest = [] := by
      refine List.map_eq_nil_iff.mp (remain.trans ?_)
      rw [pending, show t.queue.backlog = [] from backlog, show t.queue.active = none from active]
      rfl
    obtain rfl := List.prefix_nil.mp begun
    obtain rfl := List.prefix_nil.mp replied
    refine ⟨heard.trans firsts.symm, answered.trans seconds.symm, ?_⟩
    rw [List.append_nil] at settled
    exact books.resolved.trans settled.symm

/-- A session that connects, publishes under an unusable topic and is let go says five commands, and no more. -/
theorem serialized_farewell :
    let c := Config.ofEndpoint "sensor" "broker" 1883 60
    let ms : List (Move Loopback) :=
      [.order (.request .connectConfigured), .work, .order (.request (.publish "" .empty .atMostOnce false)),
        .order .letGo, .close, .work, .work, .deliver, .work, .work, .work, .deliver, .deliver, .work,
        .work, .work, .work]
    ∃ s engine,
      establish Loopback.engine true .empty [] c "sensor" [] .empty (.fresh [] [] 0) = (.ok s, engine) ∧
      (s.recording.after Loopback.engine.recorded c (ms.map Move.recorded)).engine.heard =
        [.connect "broker" 1883 60, .startLoop, .disconnect, .stopLoop, .destroy] ∧
      ∃ turns : List Turn,
        turns.map Turn.order =
          [.request .connectConfigured, .request (.publish "" .empty .atMostOnce false), .letGo] ∧
        (s.recording.after Loopback.engine.recorded c (ms.map Move.recorded)).engine.heard =
          (transcript c false turns).map Prod.fst := by
  refine ⟨_, _, rfl, rfl, ?_⟩
  obtain ⟨-, -, -, -, turns, orders, -, -, -, idle⟩ := serialized (show establish Loopback.engine true
    .empty [] (.ofEndpoint "sensor" "broker" 1883 60) "sensor" [] .empty (.fresh [] [] 0) = (.ok _, _)
      from rfl)
    [.order (.request .connectConfigured), .work, .order (.request (.publish "" .empty .atMostOnce false)),
      .order .letGo, .close, .work, .work, .deliver, .work, .work, .work, .deliver, .deliver, .work,
      .work, .work, .work] (by simp)
  exact ⟨turns, orders, (idle rfl).1⟩

end Session

end BrokerSession
