import BrokerSession.Session.Script

/-!
# Runs of a session

A session is moved by its owner, by its worker, by the event loop of its engine, by the passing of time and by
what happens around it. Nothing but the state of the session restricts the order in which their moves come, so
a run is any list of moves; a move that cannot be made is passed over.

What an owner asks for is handed to the worker as jobs, one after another. As long as the queue takes jobs every
order changes the session in the same few places, and `obey_eq` says once and for all which.

## Main definitions

* `Session.Order` - what the owner of a session can ask of it
* `Session.Move` - what can happen to a session
* `Session.after` - a session after a run
* `Order.tasks`, `Order.standing` - what an order hands to the worker, and where it leaves the session
* `Order.steers` - whether an order asks for a connection or ends one

## Main results

* `after_induction` - what every move keeps is kept by a run
* `obey_eq` - the effect of an order on a session whose queue takes jobs
* `obey_of_isClosed` - what an order leaves alone otherwise
-/

namespace BrokerSession

namespace Session

variable {σ : Type}

/-! ## Orders and moves -/

/-- What the owner of a session can ask of it. -/
inductive Order where
  | request (op : Operation)
  /-- To hear when everything asked for so far is done. -/
  | mark
  /-- To be let go. -/
  | letGo

/-- Something that happens to a session. -/
inductive Move (σ : Type) where
  | order (o : Order)
  /-- The owner has let the session go, and its queue is closed. -/
  | close
  | work
  | deliver
  | pass (millis : Nat)
  /-- Something happens to the engine that is nobody's doing here. -/
  | outside (f : σ → σ)
  | clearDirectory
  | crash

/-- The session after an order. Only an owner who still has the session can ask for something. -/
def obey (c : Config) (s : Session σ) : Order → Session σ
  | .request op => if s.tornDown then s else (op.run c s).2
  | .mark => if s.tornDown then s else s.mark.2
  | .letGo => s.tearDown

/-- The session after a move, if the move can be made. -/
def move? (e : Engine σ) (c : Config) (s : Session σ) : Move σ → Option (Session σ)
  | .order o => some (s.obey c o)
  | .close => if s.tornDown then some s.closeQueue else none
  | .work => s.workerStep? e
  | .deliver => s.loopStep? e
  | .pass millis => some { s with clock := s.clock + millis }
  | .outside f => some { s with engine := f s.engine }
  | .clearDirectory => some { s with directory := s.directory.clear }
  | .crash => if s.queue.active.isSome then some (s.crash e) else none

/-- The session after a move; a move that cannot be made is passed over. -/
def move (e : Engine σ) (c : Config) (s : Session σ) (m : Move σ) : Session σ :=
  (s.move? e c m).getD s

/-- The session after a run. -/
def after (e : Engine σ) (c : Config) (s : Session σ) (ms : List (Move σ)) : Session σ :=
  ms.foldl (move e c) s

variable {e : Engine σ} {c : Config} {s : Session σ}

/-- Only a session that was let go is closed. -/
theorem eq_of_close {t : Session σ} (made : s.move? e c .close = some t) :
    s.tornDown = true ∧ t = s.closeQueue := by
  simp only [move?, Option.ite_none_right_eq_some, Option.some.injEq] at made
  exact ⟨made.1, made.2.symm⟩

/-- Only a job at work crashes. -/
theorem eq_of_crash {t : Session σ} (made : s.move? e c .crash = some t) :
    s.queue.active.isSome = true ∧ t = s.crash e := by
  simp only [move?, Option.ite_none_right_eq_some, Option.some.injEq] at made
  exact ⟨made.1, made.2.symm⟩

theorem after_append (ms ns : List (Move σ)) :
    s.after e c (ms ++ ns) = (s.after e c ms).after e c ns :=
  List.foldl_append

theorem move_of_move? {P : Session σ → Prop} {m : Move σ} (h : P s)
    (step : ∀ t, s.move? e c m = some t → P t) : P (s.move e c m) := by
  unfold move
  cases hm : s.move? e c m with
  | none => exact h
  | some t => exact step t hm

/-- What every move of a run keeps is kept by the run. -/
theorem after_induction {P : Session σ → Prop} {ms : List (Move σ)} (start : P s)
    (step : ∀ t, P t → ∀ m ∈ ms, ∀ u, t.move? e c m = some u → P u) : P (s.after e c ms) := by
  induction ms generalizing s with
  | nil => exact start
  | cons m ms ih =>
    refine ih (s := s.move e c m) ?_ fun t ht n hn => step t ht n (List.mem_cons_of_mem _ hn)
    exact move_of_move? start (step s start m List.mem_cons_self)

/-! ## What an order does -/

namespace Order

/-- Whether the order is to let the session go. -/
def isLetGo : Order → Bool
  | letGo => true
  | _ => false

/-- Whether the order asks for a connection. -/
def connects : Order → Bool
  | request (.connect ..) => true
  | request .connectConfigured => true
  | request .reconnect => true
  | _ => false

/-- What an order hands to the worker, given whether the session is meant to run. -/
def tasks (c : Config) (running : Bool) : Order → List Task
  | request (.connect host port keepAlive) => [.connect host port keepAlive]
  | request .connectConfigured => [.connect c.host c.port c.keepAliveSecs]
  | request .reconnect => [.reconnect]
  | request .disconnect => if running then [.disconnect false] else []
  | request (.publish topic payload qos retain) => [.publish topic payload qos retain]
  | request (.subscribe filters qos) => [.subscribe filters qos]
  | request (.unsubscribe filter) => [.unsubscribe filter]
  | mark => [.mark]
  | letGo => if running then [.disconnect true, .destroy] else [.destroy]

/-- Whether the session is meant to run after an order. -/
def runs (running : Bool) : Order → Bool
  | request .disconnect => false
  | letGo => false
  | o => o.connects || running

/-- Whether an order asks for a connection, or ends one, given whether the session is meant to run. -/
def steers (running : Bool) (o : Order) : Bool := o.connects || o.runs running != running

/-- Where an order leaves a session. -/
def standing (s : Standing) : Order → Standing
  | request .disconnect => if s.running then ⟨.disconnecting, false⟩ else s
  | letGo => if s.running then ⟨.disconnecting, false⟩ else s
  | o => if o.connects then ⟨.connecting, true⟩ else s

/-- How many tickets an order takes. -/
def draws (running : Bool) : Order → Nat
  | letGo => if running then 1 else 0
  | _ => 1

/-- The jobs of an order that takes a ticket; nobody waits for a session to be let go. -/
def jobs (c : Config) (running : Bool) (ticket : Ticket) (o : Order) : List Job :=
  (o.tasks c running).map fun task => ⟨if task = .destroy then none else some ticket, task⟩

/-- What an order settles at once: a session that rests is already disconnected. -/
def instant (running : Bool) (ticket : Ticket) : Order → List (Ticket × Resolution)
  | request .disconnect => if running then [] else [(ticket, .answered (.ofStatus .success))]
  | _ => []

@[simp] theorem standing_running (s : Standing) (o : Order) :
    (o.standing s).running = o.runs s.running := by
  cases o with
  | request op => cases op <;> simp only [standing, runs, connects] <;> grind
  | mark => simp [standing, runs, connects]
  | letGo => simp only [standing, runs]; grind

theorem destroy_notMem_tasks {c : Config} {o : Order} {running : Bool} (stays : o.isLetGo = false) :
    Task.destroy ∉ o.tasks c running := by
  cases o with
  | request op => cases op <;> simp only [tasks] <;> grind
  | mark => simp [tasks]
  | letGo => cases stays

theorem standing_of_rested {s : Standing} {o : Order} (before : s.running = false)
    (after : o.runs s.running = false) : o.standing s = s := by
  cases o with
  | request op => cases op <;> simp_all [standing, runs, connects]
  | mark => rfl
  | letGo => simp [standing, before]

/-- An order that neither asks for a connection nor ends one leaves the session where it is. -/
theorem standing_of_steady {s : Standing} {o : Order} (steady : o.steers s.running = false) :
    o.standing s = s := by
  cases o with
  | request op => cases op <;> simp_all [steers, standing, runs, connects]
  | mark => rfl
  | letGo => simp_all [steers, standing, runs]

/-- An order that asks for a connection leaves the session waiting for it. -/
theorem standing_of_connects {o : Order} (asks : o.connects = true) (s : Standing) :
    o.standing s = ⟨.connecting, true⟩ := by
  cases o with
  | request op => cases op <;> first | rfl | cases asks
  | mark => cases asks
  | letGo => cases asks

/-- A session that is meant to rest is steered by connects alone. -/
@[simp] theorem steers_false (o : Order) : o.steers false = o.connects := by
  cases o with
  | request op => cases op <;> rfl
  | mark => rfl
  | letGo => rfl

theorem jobs_of_connects {o : Order} (c : Config) (running : Bool) (ticket : Ticket)
    (asks : o.connects = true) : ∃ task, o.jobs c running ticket = [⟨some ticket, task⟩] := by
  cases o with
  | request op => cases op <;> first | exact ⟨_, rfl⟩ | cases asks
  | mark => cases asks
  | letGo => cases asks

theorem runs_of_quiet {o : Order} {running : Bool} (quiet : o.connects = false)
    (before : running = false) : o.runs running = false := by
  cases o with
  | request op => cases op <;> simp_all [runs]
  | mark => simp_all [runs, connects]
  | letGo => rfl

/-- An order that asks for no connection leaves only a session running that ran before, and does not steer it. -/
theorem steady_of_runs {o : Order} {running : Bool} (quiet : o.connects = false)
    (after : o.runs running = true) : running = true ∧ o.steers true = false := by
  cases o with
  | request op => cases op <;> simp_all [steers, runs]
  | mark => simp_all [steers, runs, connects]
  | letGo => cases after

end Order

/-- Whether a move is an order that asks for a connection. -/
def Move.connects : Move σ → Bool
  | .order o => o.connects
  | _ => false

/-- Whether a move is an order that asks for a connection, or ends one. -/
def Move.steers (running : Bool) : Move σ → Bool
  | .order o => o.steers running
  | _ => false

theorem Move.steers_of_quiet {m : Move σ} {running : Bool} (rests : running = false)
    (quiet : m.connects = false) : m.steers running = false := by
  subst rests
  cases m with
  | order o => exact (Order.steers_false o).trans quiet
  | _ => rfl

theorem Move.quiet_of_steady {m : Move σ} {running : Bool} (steady : m.steers running = false) :
    m.connects = false := by
  cases m with
  | order o => exact (Bool.or_eq_false_iff.mp steady).1
  | _ => rfl

/-! ### Orders to a session that takes them -/

theorem obey_of_tornDown (h : s.tornDown = true) (o : Order) : s.obey c o = s := by
  cases o <;> simp [obey, tearDown, h]

theorem enqueue?_eq (taking : s.queue.isClosed = false) (job : Job) :
    s.enqueue? job =
      some { s with queue := { s.queue with backlog := s.queue.backlog ++ [job] } } := by
  simp [enqueue?, WorkQueue.enqueue?, taking]

theorem submit_eq (taking : s.queue.isClosed = false) (task : Task) :
    s.submit task = (s.nextTicket, { s with
      queue := { s.queue with backlog := s.queue.backlog ++ [⟨some s.nextTicket, task⟩] }
      nextTicket := s.nextTicket + 1 }) := by
  -- The ticket is drawn before the queue is asked, and drawing one leaves the queue alone.
  have drawn : s.draw.2.queue.isClosed = false := taking
  simp only [submit]
  rw [enqueue?_eq drawn]
  rfl

/-- An order to a session whose queue takes jobs appends them to what waits, moves the session on, and takes its
ticket. -/
theorem obey_eq (here : s.tornDown = false) (taking : s.queue.isClosed = false) (o : Order) :
    s.obey c o = { s with
      standing := o.standing s.standing
      queue := { s.queue with
        backlog := s.queue.backlog ++ o.jobs c s.standing.running s.nextTicket }
      resolved := s.resolved ++ o.instant s.standing.running s.nextTicket
      nextTicket := s.nextTicket + o.draws s.standing.running
      tornDown := o.isLetGo } := by
  cases o with
  | request op =>
    cases op with
    | disconnect =>
      cases running : s.standing.running <;>
        simp [obey, here, Operation.run, disconnect, endConnection, running, draw, resolve, submit_eq,
          setRunning, setPhase, taking, Order.standing, Order.jobs, Order.tasks, Order.instant,
          Order.draws, Order.isLetGo]
    | _ =>
      simp [obey, here, Operation.run, connect, reconnect, publish, subscribe, unsubscribe, start,
        submit_eq, setRunning, setPhase, taking, Order.standing, Order.connects, Order.jobs,
        Order.tasks, Order.instant, Order.draws, Order.isLetGo]
  | mark =>
    simp [obey, here, mark, draw, enqueue?_eq, taking, Order.standing, Order.connects, Order.jobs,
      Order.tasks, Order.instant, Order.draws, Order.isLetGo]
  | letGo =>
    cases running : s.standing.running <;>
      simp [obey, here, tearDown, endConnection, running, submit_eq, enqueue?_eq, setRunning, setPhase,
        taking, Order.standing, Order.jobs, Order.tasks, Order.instant, Order.draws, Order.isLetGo]

/-! ### Orders to a session that refuses them -/

theorem submit_of_isClosed (closed : s.queue.isClosed = true) (task : Task) :
    s.submit task = (s.nextTicket, { s with
      resolved := s.resolved ++ [(s.nextTicket, .closed)]
      journal := s.journal ++ [.warning (.commandNotQueued .queueClosed) none]
      nextTicket := s.nextTicket + 1 }) := by
  simp [submit, enqueue?, WorkQueue.enqueue?, draw, closed, resolve, warn, note]

/-- An order to a session whose queue takes no jobs changes nothing for the worker and the engine. -/
theorem obey_of_isClosed (closed : s.queue.isClosed = true) (o : Order) :
    (s.obey c o).queue = s.queue ∧ (s.obey c o).exchange = s.exchange ∧ (s.obey c o).engine = s.engine := by
  cases here : s.tornDown with
  | true =>
    rw [obey_of_tornDown here]
    exact ⟨rfl, rfl, rfl⟩
  | false =>
    cases o with
    | request op =>
      cases op with
      | disconnect =>
        cases running : s.standing.running <;>
          simp [obey, here, Operation.run, disconnect, endConnection, running, submit_of_isClosed, closed,
            setRunning, setPhase, draw, resolve]
      | _ =>
        simp [obey, here, Operation.run, connect, reconnect, publish, subscribe, unsubscribe, start,
          submit_of_isClosed, closed, setRunning, setPhase]
    | mark => simp [obey, here, mark, draw, enqueue?, WorkQueue.enqueue?, closed, resolve]
    | letGo =>
      cases running : s.standing.running <;>
        simp [obey, here, tearDown, endConnection, running, submit_of_isClosed, closed, setRunning, setPhase,
          enqueue?, WorkQueue.enqueue?, unregister, warn, note]

end Session

end BrokerSession
