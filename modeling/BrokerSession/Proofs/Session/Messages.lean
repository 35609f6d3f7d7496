import BrokerSession.Proofs.Session.Routing
import BrokerSession.Proofs.Session.Schedules

/-!
# Messages from end to end

An application that connects a fresh session over the loopback engine and then asks for subscriptions and publishes
messages is told about all of them: every event that its commands send waits in the mailbox until the loop takes it
out, and is handed on as it is. What the commands send is known from the orders, and so is what the application has
been told when nothing is left to do.

## Main definitions

* `Session.told` - what the application was told
* `Recorded.obeyed` - the commands that the engine has answered
* `Session.Attends` - every event of the engine was told or waits
* `Session.Move.Undisturbed` - the moves of a session that nobody disturbs

## Main results

* `Attends.move` - no event gets lost
* `messages_of_requests` - what an application is told about its messages and subscriptions
-/

namespace BrokerSession

/-- The commands that the engine has answered, the earliest first. -/
def Recorded.obeyed {σ : Type} (r : Recorded σ) : List Command := r.heard.take r.answered.length

/-- The notice in a line of a journal, if it is one. -/
def Entry.notice? : Entry → Option Notice
  | notice n => some n
  | _ => none

/-- Whoever wants everything is told every event that is well-formed. -/
theorem Listener.tell?_of_all {l : Listener} (all : ∀ kind, kind ∈ l.wanted) (event : EngineEvent) :
    l.tell? event = event.notice? := by
  unfold tell?
  cases event.notice? with
  | none => rfl
  | some n => simp [Option.filter, all n.kind]

theorem Exchange.remarks_notice? (x : Exchange) (r : Reply) :
    (x.remarks r).filterMap Entry.notice? = [] := by
  unfold remarks
  repeat' split
  all_goals rfl

/-! ## A loop that is not stopped -/

/-- Whether a task leads away from the connection. -/
def Task.parts : Task → Bool
  | disconnect _ => true
  | destroy => true
  | _ => false

theorem Task.awaitsLoop_of_mem_block {task : Task} {a : Command → Reply} {cmd : Command}
    (stays : task.parts = false) (among : cmd ∈ task.block a) : Loopback.awaitsLoop cmd = false := by
  cases task with
  | disconnect | destroy => cases stays
  | _ => simp only [block] at among; grind [Loopback.awaitsLoop]

namespace Loopback

variable {s t : Loopback} {cmd : Command} {r : Reply}

/-- Whether a loop, if there is one, is at work and will go on. -/
def Unstopped (s : Loopback) : Prop := s.receiver ≠ .ended ∧ s.stops = 0

theorem Unstopped.call (h : s.Unstopped) (prompt : awaitsLoop cmd = false) : (s.call cmd).Unstopped := by
  have alike := alike_call (s := s) prompt
  exact ⟨alike.receiver ▸ h.1, alike.stops.trans h.2⟩

theorem Unstopped.emit (h : s.Unstopped) (event : EngineEvent) : (s.emit event).Unstopped :=
  ⟨(emit_receiver s event).symm ▸ h.1, (emit_stops s event).trans h.2⟩

theorem Unstopped.whenConnected {act : Reply × Loopback} (h : s.Unstopped) (acted : act.2.Unstopped) :
    (s.whenConnected act).2.Unstopped := by
  unfold Loopback.whenConnected
  split
  · exact acted
  · exact h

theorem Unstopped.perform (h : s.Unstopped) (cmd : Command) : (s.perform cmd).2.Unstopped := by
  -- Whatever a command changes besides, it puts nothing but events into the mailbox.
  have changed {connected : Bool} {endpoint : Option (String × UInt16 × UInt16)} {lastId : MessageId}
      {subscriptions : List (String × Qos)} :
      Unstopped { s with connected, endpoint, lastId, subscriptions } := h
  cases cmd with
  | connect host port keepAlive => exact Unstopped.emit changed _
  | reconnect =>
    simp only [Loopback.perform]
    split
    · exact Unstopped.emit changed _
    · exact h
  | disconnect => exact h.whenConnected (Unstopped.emit changed _)
  | publish topic payload qos retain =>
    refine h.whenConnected ?_
    unfold publish
    dsimp only
    split
    · exact (Unstopped.emit changed _).emit _
    · exact Unstopped.emit changed _
  | subscribe filters qos => exact h.whenConnected (Unstopped.emit changed _)
  | unsubscribe filter => exact h.whenConnected (Unstopped.emit changed _)
  | startLoop =>
    simp only [Loopback.perform, startLoop]
    split
    · exact h
    · exact h
    · exact h
    · split
      · exact ⟨(by simp), h.2⟩
      · exact ⟨(by simp), rfl⟩
  | stopLoop => exact h
  | destroy => exact changed

theorem Unstopped.finish (h : s.Unstopped) (answered : s.finish cmd = some (r, t)) : t.Unstopped := by
  rcases finish_eq_some answered with ⟨_, _, -, -, rfl⟩ | ⟨-, -, performed⟩ | ⟨-, -, u, collected, performed⟩
  · exact h
  · rw [show t = (s.perform cmd).2 from congrArg Prod.snd performed]
    exact h.perform cmd
  · obtain ⟨-, rfl⟩ := collect?_eq_some_iff.mp collected
    rw [if_neg h.1] at performed
    rw [show t = (s.perform cmd).2 from congrArg Prod.snd performed]
    exact h.perform cmd

/-- A loop that goes on leaves nothing in the mailbox when it has nothing to do. -/
theorem Unstopped.mailbox_of_deliver (h : s.Unstopped) (started : s.face.receiver = .running)
    (still : s.deliver = none) : s.mailbox = [] := by
  have running : s.receiver = .running := by
    simp only [face] at started
    rwa [if_neg h.1] at started
  cases waits : s.mailbox with
  | nil => rfl
  | cons first rest => cases first <;> simp [deliver, running, waits] at still

end Loopback

namespace Session

variable {σ : Type} {c : Config} {v : Loopback} {s t : Session (Recorded Loopback)}

/-! ## No event gets lost -/

/-- What the application was told, the earliest first. -/
def told (s : Session σ) : List Notice := s.journal.filterMap Entry.notice?

/-- Whether an order asks to part, for good or not. -/
def Order.parts : Order → Bool
  | request .disconnect => true
  | letGo => true
  | _ => false

/-- Whether a move belongs to a session that stays connected, and leaves its directory and its engine to it. -/
def Move.Undisturbed : Move σ → Prop
  | .order o => o.parts = false
  | .outside _ => False
  | .clearDirectory => False
  | .crash => False
  | _ => True

theorem Move.Undisturbed.calm {m : Move Loopback} (undisturbed : m.Undisturbed) : m.Calm := by
  cases m with
  | outside f => exact undisturbed.elim
  | clearDirectory | crash => exact undisturbed.elim
  | _ => trivial

theorem Order.parts_of_mem_jobs {o : Order} {running : Bool} {ticket : Ticket} {k : Job}
    (stays : o.parts = false) (new : k ∈ o.jobs c running ticket) : k.task.parts = false := by
  obtain ⟨task, among, rfl⟩ := List.mem_map.mp new
  cases o with
  | request op =>
    cases op with
    | disconnect => cases stays
    | _ =>
      obtain rfl := List.mem_singleton.mp among
      rfl
  | mark =>
    obtain rfl := List.mem_singleton.mp among
    rfl
  | letGo => cases stays

/-! ### The account of a run

What was told, and behind it what waits, is what the answered commands have sent, up to what the application wants to be
told of an event. -/

theorem obeyed_of_free (replays : Replays v s) (free : s.exchange = none) :
    s.engine.obeyed = s.engine.heard := by
  rw [Recorded.obeyed, (replays.free free).1, Loopback.length_replies, List.take_length]

theorem told_heed (s : Session σ) (x : Exchange) (r : Reply) : (s.heed x r).told = s.told := by
  simp [told, heed, List.filterMap_append, x.remarks_notice? r]

/-- A command that is heard sends nothing yet. -/
theorem account_of_say {f : EngineEvent → Option Notice} {job : Job} {cmd : Command} {earlier : Option Status}
    (even : s.engine.answered.length = s.engine.heard.length)
    (account : s.told ++ s.engine.inner.events.filterMap f = (v.played s.engine.heard).events.filterMap f) :
    (s.say Loopback.engine.recorded job cmd earlier).told ++
        (s.say Loopback.engine.recorded job cmd earlier).engine.inner.events.filterMap f =
      (v.played (s.say Loopback.engine.recorded job cmd earlier).engine.obeyed).events.filterMap f := by
  have obeyed : (s.say Loopback.engine.recorded job cmd earlier).engine.obeyed = s.engine.heard := by
    simp [Recorded.obeyed, Session.say, Engine.recorded, even]
  rw [obeyed, ← account]
  exact congrArg (fun events => s.told ++ events.filterMap f) (Loopback.call_events s.engine.inner cmd)

/-- What the engine sends with its answer is what the replayed engine sends. -/
theorem account_of_answer {f : EngineEvent → Option Notice}
    (account : s.told ++ s.engine.inner.events.filterMap f = (v.played s.engine.obeyed).events.filterMap f)
    (replays : Replays v s) (listens : v.attached = true) {x : Exchange} {r : Reply} {engine : Recorded Loopback}
    (busy : s.exchange = some x)
    (answered : Loopback.engine.recorded.finish s.engine s.clock x.command = some (r, engine)) :
    engine.answered.length = engine.heard.length ∧
      s.told ++ engine.inner.events.filterMap f = (v.played engine.heard).events.filterMap f := by
  have replies := (replays.answer listens busy answered).2.1
  obtain ⟨inner, finished, rfl⟩ := Engine.finish_of_recorded answered
  obtain ⟨earlier, heard, before, face⟩ := replays.busy x busy
  obtain ⟨-, -, sent, own, replayed⟩ := Loopback.answer_congr (replays.attached listens busy) face x.command
  rw [Loopback.answer_of_finish finished] at own
  have obeyed : s.engine.obeyed = earlier := by
    rw [Recorded.obeyed, before, heard, Loopback.length_replies, List.take_left]
  rw [obeyed] at account
  have last : (v.played s.engine.heard).events = (v.played earlier).events ++ sent := by
    rw [heard, Loopback.played_append]
    exact replayed
  refine ⟨(congrArg List.length replies).trans (Loopback.length_replies ..), ?_⟩
  rw [last, List.filterMap_append, ← account, List.append_assoc, ← List.filterMap_append]
  exact congrArg (fun events => s.told ++ events.filterMap f) own

/-- The loop of a registered session takes an event out of the mailbox, and the application is told, or it comes to a
stop marker. -/
theorem loopStep?_of_registered {l : Listener} (here : s.directory.lookup? s.key = some l)
    (made : s.loopStep? Loopback.engine.recorded = some t) :
    s.engine.inner.receiver = .running ∧ ∃ rest,
      (∃ event, s.engine.inner.mailbox = .event event :: rest ∧ t = { s with
        engine := { s.engine with inner := { s.engine.inner with mailbox := rest } }
        standing := l.advance s.standing event
        journal := s.journal ++ ((l.tell? event).map .notice).toList }) ∨
      (s.engine.inner.mailbox = .stop :: rest ∧ t = { s with
        engine := { s.engine with inner := { s.engine.inner with mailbox := rest, receiver := .ended } } }) := by
  obtain ⟨⟨reports, engine⟩, delivered, rfl⟩ := Option.map_eq_some_iff.mp made
  obtain ⟨inner, taken, rfl⟩ := Engine.deliver_of_recorded delivered
  replace taken : s.engine.inner.deliver = some (reports, inner) := taken
  unfold Loopback.deliver at taken
  split at taken
  · rename_i event rest running waits
    cases taken
    refine ⟨running, rest, .inl ⟨event, waits, ?_⟩⟩
    exact hear_of_registered
      (s := { s with engine := { s.engine with inner := { s.engine.inner with mailbox := rest } } }) here event
  · rename_i rest running waits
    cases taken
    exact ⟨running, rest, .inr ⟨waits, rfl⟩⟩
  · cases taken

/-- What the loop takes out of the mailbox is told. -/
theorem account_of_deliver {l : Listener} (here : s.directory.lookup? s.key = some l)
    (account : s.told ++ s.engine.inner.events.filterMap l.tell? =
      (v.played s.engine.obeyed).events.filterMap l.tell?)
    (made : s.loopStep? Loopback.engine.recorded = some t) :
    t.told ++ t.engine.inner.events.filterMap l.tell? = (v.played t.engine.obeyed).events.filterMap l.tell? := by
  obtain ⟨-, rest, ⟨event, waits, rfl⟩ | ⟨waits, rfl⟩⟩ := loopStep?_of_registered here made
  · refine Eq.trans ?_ account
    rw [Loopback.events, Loopback.events, waits]
    cases notice : l.tell? event <;> simp [told, Loopback.Mail.event?, Entry.notice?, notice]
  · refine Eq.trans ?_ account
    rw [Loopback.events, Loopback.events, waits]
    rfl

/-- A session that stays connected, over an engine that was given the commands of the run: every event that they have
sent was told or waits. -/
structure Attends (v : Loopback) (s : Session (Recorded Loopback)) : Prop where
  order : s.Orderly
  present : s.tornDown = false
  kept : ∀ k ∈ s.pending, k.task.parts = false
  registered : ∃ listener, s.directory.lookup? s.key = some listener ∧ ∀ kind, kind ∈ listener.wanted
  unstopped : s.engine.inner.Unstopped
  account : s.told ++ s.engine.inner.events.filterMap EngineEvent.notice? =
    (v.played s.engine.obeyed).events.filterMap EngineEvent.notice?

namespace Attends

/-- No command waits for the loop. -/
theorem prompt {x : Exchange} (order : s.Orderly) (kept : ∀ k ∈ s.pending, k.task.parts = false)
    (busy : s.exchange = some x) : Loopback.awaitsLoop x.command = false := by
  obtain ⟨a, before, talk⟩ := order.talking x busy
  refine Task.awaitsLoop_of_mem_block (a := a) (kept x.job ?_) ?_
  · rw [order.pending_of_busy busy]
    exact List.mem_cons_self
  · exact talk.block_prefix.subset (List.mem_append_right _ List.mem_cons_self)

/-- What the engine sends with its answer is what the replayed engine sends. -/
theorem answer (h : Attends v s) (replays : Replays v s) (listens : v.attached = true) {x : Exchange}
    {r : Reply} {engine : Recorded Loopback} (busy : s.exchange = some x)
    (answered : Loopback.engine.recorded.finish s.engine s.clock x.command = some (r, engine)) :
    engine.answered.length = engine.heard.length ∧ engine.inner.Unstopped ∧
      s.told ++ engine.inner.events.filterMap EngineEvent.notice? =
        (v.played engine.heard).events.filterMap EngineEvent.notice? := by
  obtain ⟨even, account⟩ := account_of_answer h.account replays listens busy answered
  obtain ⟨inner, finished, rfl⟩ := Engine.finish_of_recorded answered
  exact ⟨even, h.unstopped.finish finished, account⟩

theorem workerStep (h : Attends v s) (replays : Replays v s) (listens : v.attached = true)
    (step : WorkerStep Loopback.engine.recorded s t) : Attends v t := by
  have order := h.order.workerStep step
  have kept : ∀ k ∈ t.pending, k.task.parts = false :=
    fun k remains => h.kept k ((h.order.pending_suffix step).subset remains)
  -- No command lets the engine go, so the session stays in the directory.
  have registered {x : Exchange} (busy : s.exchange = some x) (r : Reply) (engine : Recorded Loopback) :
      ∃ listener, ({ s with engine }.heed x r).directory.lookup? s.key = some listener ∧
        ∀ kind, kind ∈ listener.wanted := by
    have prompt := prompt h.order h.kept busy
    rw [directory_heed fun last => by rw [last] at prompt; cases prompt]
    exact h.registered
  cases step with
  | dismiss free alive waits dismissed =>
    exact ⟨order, h.present, kept, h.registered, h.unstopped, h.account⟩
  | begin free alive waits opens =>
    have even : s.engine.answered.length = s.engine.heard.length := by
      rw [(replays.free free).1, Loopback.length_replies]
    have account := h.account
    rw [obeyed_of_free replays free] at account
    exact ⟨order, h.present, kept, h.registered, h.unstopped.call (prompt order kept rfl),
      account_of_say even account⟩
  | retire free alive empty closed =>
    have taking := h.order.taking h.present
    simp [WorkQueue.isClosed, closed] at taking
  | @goOn x r engine cmd earlier busy answered follows =>
    obtain ⟨even, unstopped, account⟩ := h.answer replays listens busy answered
    refine ⟨order, h.present, kept, registered busy r engine, unstopped.call (prompt order kept rfl),
      account_of_say even ?_⟩
    rw [told_heed]
    exact account
  | @finish x r engine reply busy answered follows =>
    obtain ⟨even, unstopped, account⟩ := h.answer replays listens busy answered
    have obeyed : engine.obeyed = engine.heard := by rw [Recorded.obeyed, even, List.take_length]
    have same : (({ s with engine }.heed x r).complete x.job reply).told = s.told := told_heed _ x r
    refine ⟨order, h.present, kept, registered busy r engine, unstopped, ?_⟩
    rw [same]
    exact account.trans (by rw [← obeyed]; rfl)

/-- The loop takes an event out of the mailbox, and the application is told. -/
theorem deliver (h : Attends v s) (order : t.Orderly)
    (made : s.loopStep? Loopback.engine.recorded = some t) : Attends v t := by
  obtain ⟨listener, here, all⟩ := h.registered
  have account := h.account
  rw [← funext (listener.tell?_of_all all)] at account
  replace account := account_of_deliver here account made
  rw [funext (listener.tell?_of_all all)] at account
  have unmarked := h.unstopped.2
  obtain ⟨-, rest, ⟨event, waits, rfl⟩ | ⟨waits, -⟩⟩ := loopStep?_of_registered here made
  · rw [Loopback.stops, waits] at unmarked
    exact ⟨order, h.present, h.kept, h.registered, ⟨h.unstopped.1, by simpa [Loopback.stops] using unmarked⟩, account⟩
  · rw [Loopback.stops, waits] at unmarked
    simp at unmarked

theorem move {m : Move Loopback} (h : Attends v s) (replays : Replays v s) (listens : v.attached = true)
    (undisturbed : m.Undisturbed) (made : s.move? Loopback.engine.recorded c m.recorded = some t) :
    Attends v t := by
  have order := h.order.move undisturbed.calm.recorded_ne_crash made
  cases m with
  | order o =>
    obtain rfl := Option.some.inj made
    rw [obey_eq h.present (h.order.taking h.present)] at order ⊢
    refine ⟨order, ?_, fun k remains => ?_, h.registered, h.unstopped, h.account⟩
    · cases o with
      | letGo => cases undisturbed
      | _ => rfl
    · simp only [pending, ← List.append_assoc] at remains
      rcases List.mem_append.mp remains with old | new
      · exact h.kept k old
      · exact Order.parts_of_mem_jobs undisturbed new
  | work => exact h.workerStep replays listens (workerStep_of_workerStep? made)
  | deliver => exact h.deliver order made
  | close =>
    simp only [Move.recorded, move?, h.present] at made
    cases made
  | pass millis =>
    obtain rfl := Option.some.inj made
    exact ⟨order, h.present, h.kept, h.registered, h.unstopped, h.account⟩
  | outside f => exact undisturbed.elim
  | clearDirectory | crash => exact undisturbed.elim

theorem after {ms : List (Move Loopback)} (h : Attends v s) (replays : Replays v s)
    (listens : v.attached = true) (undisturbed : ∀ m ∈ ms, m.Undisturbed) :
    Attends v (s.after Loopback.engine.recorded c (ms.map Move.recorded)) := by
  refine (after_induction (P := fun u => Attends v u ∧ Replays v u) ⟨h, replays⟩ ?_).1
  intro t ⟨attends, replays⟩ m among u made
  obtain ⟨n, given, rfl⟩ := List.mem_map.mp among
  have fine := undisturbed n given
  exact ⟨attends.move replays listens fine made, replays.move listens attends.order fine.calm made⟩

theorem of_establish {hosted : Bool} {fs : Files} {env : Environment} {clientId : String}
    {wanted : List Notice.Kind} {directory : Directory Listener} {failures : List (String × Status)}
    {delays : List (String × Nat)} {code : Int} {engine : Loopback} {s : Session Loopback}
    (established : establish Loopback.engine hosted fs env c clientId wanted directory
      (.fresh failures delays code) = (.ok s, engine))
    (all : ∀ kind, kind ∈ wanted) : Attends s.engine s.recording := by
  obtain ⟨calls, unused⟩ := engine_of_establish established
  have unstopped : s.engine.Unstopped := by
    rw [unused]
    exact ⟨nofun, rfl⟩
  have order := (Books.of_establish established).order
  obtain ⟨staged, -, rfl⟩ := establish_eq_ok established
  exact ⟨order, rfl, (fun k remains => by cases remains),
    ⟨_, Directory.lookup?_register .., all⟩, unstopped, List.nil_append _⟩

end Attends

/-! ## Requests one after another -/

/-- Messages take a ticket and bring a job each, whether the session is meant to run or not. -/
theorem gather_of_messages {ops : List Operation} (messages : ∀ op ∈ ops, op.isMessage = true)
    (running : Bool) (ticket : Nat) :
    gather (Order.jobs c) running ticket (ops.map .request) =
        (ops.zipIdx ticket).map (fun (op, k) => ⟨some k, op.task c⟩) ∧
      gather Order.instant running ticket (ops.map .request) = [] := by
  induction ops generalizing running ticket with
  | nil => exact ⟨rfl, rfl⟩
  | cons op ops ih =>
    obtain ⟨jobs, instant⟩ := ih (fun op among => messages op (List.mem_cons_of_mem _ among))
      ((Order.request op).runs running) (ticket + 1)
    have message := messages op List.mem_cons_self
    have drawn : (Order.request op).draws running = 1 := rfl
    rw [List.map_cons, gather, gather, drawn, jobs, instant]
    cases op with
    | publish | subscribe | unsubscribe => exact ⟨rfl, rfl⟩
    | _ => cases message

/-- The script of a connect and requests behind it. -/
theorem exists_script_of_dial {dial : Operation} {requests : List Operation} (dials : dial.dials = true)
    (messages : ∀ op ∈ requests, op.isMessage = true) (v : Loopback) :
    ∃ host port keepAlive,
      let task := Task.connect host port keepAlive
      let a := v.answers task
      let rest := (v.played (task.block a)).tally
        ((requests.zipIdx 1).map fun (op, k) => ⟨some k, op.task c⟩)
      script c v ((dial :: requests).map .request) = (⟨some 0, task⟩, a) :: rest ∧
        settlement c v ((dial :: requests).map .request) =
          (0, .answered (task.reply a)) :: rest.filterMap fun d => d.1.outcome? d.2 := by
  obtain ⟨jobs, instants⟩ := gather_of_messages (c := c) messages true 1
  have parts {host : String} {port keepAlive : UInt16} {o : Order}
      (job : o.jobs c false 0 = [⟨some 0, .connect host port keepAlive⟩])
      (instant : o.instant false 0 = []) (runs : o.runs false = true) (drawn : o.draws false = 1) :
      gather (Order.jobs c) false 0 (o :: requests.map .request) =
          ⟨some 0, .connect host port keepAlive⟩ ::
            (requests.zipIdx 1).map (fun (op, k) => ⟨some k, op.task c⟩) ∧
        gather Order.instant false 0 (o :: requests.map .request) = [] := by
    rw [gather, gather, job, instant, runs, drawn, jobs, instants]
    exact ⟨rfl, rfl⟩
  cases dial with
  | connect host port keepAlive =>
    obtain ⟨brought, instantly⟩ := parts (o := .request (.connect host port keepAlive)) rfl rfl rfl rfl
    refine ⟨host, port, keepAlive, ?_, ?_⟩
    · rw [script, List.map_cons, brought]
      rfl
    · rw [settlement, script, List.map_cons, brought, instantly]
      rfl
  | connectConfigured =>
    obtain ⟨brought, instantly⟩ := parts (o := .request .connectConfigured) rfl rfl rfl rfl
    refine ⟨c.host, c.port, c.keepAliveSecs, ?_, ?_⟩
    · rw [script, List.map_cons, brought]
      rfl
    · rw [settlement, script, List.map_cons, brought, instantly]
      rfl
  | _ => cases dials

/-- A fresh engine that accepts a connect is ready for requests, and has sent its acceptance. -/
theorem ready_of_connect {delays : List (String × Nat)} {calls : List Loopback.Call}
    (unused : v = { Loopback.fresh [] delays 0 with calls, attached := true }) (host : String)
    (port keepAlive : UInt16) :
    let task := Task.connect host port keepAlive
    (v.played (task.block (v.answers task))).Ready [] ∧
      (v.played (task.block (v.answers task))).events = [.connect 0] ∧
      task.reply (v.answers task) = .ofStatus .success := by
  intro task
  subst unused
  -- The engine gets a name, so that it is looked into only where an answer depends on it.
  generalize engine : { Loopback.fresh [] delays 0 with calls, attached := true } = v
  have opened : v.answers task (.connect host port keepAlive) = .ofStatus .success := by
    simp only [Loopback.answers, task, Task.opening, if_pos]
    rw [← engine]
    rfl
  have started : v.answers task .startLoop = .ofStatus .success := by
    simp only [Loopback.answers, task, Task.opening]
    rw [← engine]
    rfl
  have block : task.block (v.answers task) = [.connect host port keepAlive, .startLoop] := by
    rw [Task.block, opened]
    rfl
  refine ⟨?_, ?_, ?_⟩
  · rw [block, ← engine]
    refine ⟨⟨rfl, rfl, fun lost => by cases lost⟩, rfl, rfl, fun filter qos => ?_⟩
    constructor
    · intro there
      cases there
    · intro there
      cases there
  · rw [block, ← engine]
    rfl
  · rw [Task.reply, opened, started]
    rfl

/-- Over a loopback engine that refuses nothing and accepts connects, a session that nobody disturbs connects, and
goes on with any requests about messages. When nothing is left to do, every request was answered, with success
exactly if its topic or filters are well-formed. Once the mailbox is empty, too, its application, which wants to be
told everything, was told that it is connected, and of each request what `Reported` says. A session to which nothing
happens by itself any more has come to that point. -/
theorem messages_of_requests {hosted : Bool} {fs : Files} {env : Environment} {clientId : String}
    {wanted : List Notice.Kind} {directory : Directory Listener} {delays : List (String × Nat)}
    {engine : Loopback} {s : Session Loopback}
    (established : establish Loopback.engine hosted fs env c clientId wanted directory
      (.fresh [] delays 0) = (.ok s, engine))
    (all : ∀ kind, kind ∈ wanted) (dial : Operation) (requests : List Operation)
    (ms : List (Move Loopback)) (undisturbed : ∀ m ∈ ms, m.Undisturbed) (dials : dial.dials = true)
    (messages : ∀ op ∈ requests, op.isMessage = true)
    (asked : issued ms = (dial :: requests).map .request) :
    let t := s.after Loopback.engine c ms
    (t.Quiet → t.queue.isIdle = true ∧ t.engine.mailbox = []) ∧
      (t.queue.isIdle = true → ∃ deeds : List Deed,
        deeds.map Deed.asked = requests ∧
          t.resolution? 0 = some (.answered (.ofStatus .success)) ∧
          (∀ i, t.resolution? (i + 1) = deeds[i]?.map fun d => .answered d.reply) ∧
          (∀ d ∈ deeds, d.reply.isSuccess = d.asked.isUsable) ∧
          (t.engine.mailbox = [] → ∃ notices, t.told = .connected .success :: notices ∧
            Reported [] deeds notices)) := by
  obtain ⟨plain, lively, replays, done, books⟩ := recorded_run (c := c) established
    fun m among => (undisturbed m among).calm
  obtain ⟨listens, fresh⟩ := Replays.of_establish established
  obtain ⟨calls, unused⟩ := engine_of_establish established
  have attends := (Attends.of_establish established all).after (c := c) fresh listens undisturbed
  rw [asked] at books
  obtain ⟨-, -, idle⟩ := books.script replays
  rw [← plain]
  generalize s.recording.after Loopback.engine.recorded c (ms.map Move.recorded) = u at *
  intro t
  -- The script is the connect, and behind it the requests.
  obtain ⟨host, port, keepAlive, script, settlement⟩ :=
    exists_script_of_dial (c := c) dials messages s.engine
  obtain ⟨ready, accepted, replied⟩ := ready_of_connect unused host port keepAlive
  obtain ⟨deeds, sent, same, settled, usable, running, events, reported⟩ := ready.deeds c messages 1
  rw [script, settlement, List.flatMap_cons] at idle
  have free (atEnd : u.queue.isIdle = true) : u.exchange = none :=
    exchange_eq_none_of_idle books.order.working atEnd
  refine ⟨fun quiet => ?_, fun atEnd => ?_⟩
  · have atEnd := lively.isIdle_of_quiet quiet
    have alive : u.queue.worker = .alive := by
      have taking := attends.order.taking attends.present
      simp only [WorkQueue.isClosed, Bool.or_eq_false_iff, bne_eq_false_iff_eq] at taking
      exact taking.2
    have started : u.engine.inner.face.receiver = .running := by
      rw [(replays.free (free atEnd)).2 alive, (idle atEnd).1, Loopback.played_append]
      simp [Loopback.face, running]
    refine ⟨atEnd, attends.unstopped.mailbox_of_deliver started ?_⟩
    have still : t.loopStep? Loopback.engine = none := by
      have both : t.workerStep? Loopback.engine = none ∧ t.loopStep? Loopback.engine = none := by
        simpa [process] using quiet.1
      exact both.2
    exact Option.map_eq_none_iff.mp still
  · obtain ⟨heard, resolved⟩ := idle atEnd
    refine ⟨deeds, same, ?_, fun i => ?_, usable, fun empty => ?_⟩
    · rw [show t.resolution? 0 = _ from resolved 0, List.lookup_cons_self, replied]
    · have other : (i + 1 == 0) = false := beq_false_of_ne (Nat.succ_ne_zero i)
      rw [show t.resolution? (i + 1) = _ from resolved (i + 1), List.lookup_cons, other, ← settled i,
        Nat.add_comm]
    · have account := attends.account
      rw [obeyed_of_free replays (free atEnd), heard, Loopback.played_append, events, accepted,
        List.filterMap_append,
        show u.engine.inner.events = [] by rw [Loopback.events, show u.engine.inner.mailbox = [] from empty]; rfl,
        List.filterMap_nil, List.append_nil] at account
      exact ⟨_, account, reported⟩

/-- Overlapping filters with different grants: the first publish comes back once, under the stronger grant, and the
last one, after the end of a subscription, under the weaker. One to a wildcard is refused. -/
theorem messages_of_overlapping_filters :
    let c := Config.ofEndpoint "sensor" "broker" 1883 60
    let requests : List Operation :=
      [.subscribe ["a/+", "a/b"] .exactlyOnce, .subscribe ["a/+"] .atMostOnce,
        .publish "a/b" "on".toUTF8 .atLeastOnce false, .publish "+" .empty .atMostOnce false,
        .unsubscribe "a/b", .publish "a/b" "off".toUTF8 .atLeastOnce false]
    let ms : List (Move Loopback) :=
      (.request .connectConfigured :: requests.map .request).map .order ++
        List.replicate 14 .work ++ List.replicate 8 .deliver
    ∃ s engine,
      establish Loopback.engine true .empty [] c "sensor" Notice.Kind.all .empty (.fresh [] [] 0) =
        (.ok s, engine) ∧
      (s.after Loopback.engine c ms).told =
        [.connected .success, .subscribed 1 [2, 2], .subscribed 2 [0], .published 3,
          .message ⟨3, "a/b", "on".toUTF8, .atLeastOnce, false⟩, .unsubscribed 4, .published 5,
          .message ⟨5, "a/b", "off".toUTF8, .atMostOnce, false⟩] ∧
      ∃ deeds notices, deeds.map Deed.asked = requests ∧
        (s.after Loopback.engine c ms).told = .connected .success :: notices ∧
        Reported [] deeds notices := by
  refine ⟨_, _, rfl, ?_⟩
  refine ⟨by decide +kernel, ?_⟩
  obtain ⟨-, finished⟩ := messages_of_requests (show establish Loopback.engine true .empty []
      (.ofEndpoint "sensor" "broker" 1883 60) "sensor" Notice.Kind.all .empty (.fresh [] [] 0) =
        (.ok _, _) from rfl)
    (fun kind => by cases kind <;> decide) .connectConfigured
    [.subscribe ["a/+", "a/b"] .exactlyOnce, .subscribe ["a/+"] .atMostOnce,
      .publish "a/b" "on".toUTF8 .atLeastOnce false, .publish "+" .empty .atMostOnce false,
      .unsubscribe "a/b", .publish "a/b" "off".toUTF8 .atLeastOnce false]
    (([.connectConfigured, .subscribe ["a/+", "a/b"] .exactlyOnce, .subscribe ["a/+"] .atMostOnce,
        .publish "a/b" "on".toUTF8 .atLeastOnce false, .publish "+" .empty .atMostOnce false,
        .unsubscribe "a/b", .publish "a/b" "off".toUTF8 .atLeastOnce false].map .request).map .order ++
      List.replicate 14 .work ++ List.replicate 8 .deliver)
    (by simp [Move.Undisturbed, Order.parts]) rfl (by simp [Operation.isMessage]) rfl
  obtain ⟨deeds, same, -, -, -, reported⟩ := finished (by decide +kernel)
  obtain ⟨notices, told, reported⟩ := reported (by decide +kernel)
  exact ⟨deeds, notices, same, told, reported⟩

end Session

end BrokerSession
