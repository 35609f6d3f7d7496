import BrokerSession.Proofs.Loopback.Candid
import BrokerSession.Proofs.Session.Loopback

/-!
# A session agrees with its engine

A session learns about its connection in two ways: from the events that reach it, and from what its worker does.
Both lag behind the engine. Connects and disconnects wait in the queue, answers to connects and ends of
connections wait in the mailbox, and while no loop runs they go on waiting. Once nothing waits any more the session
is connected exactly when the engine is.

## Main definitions

* `Session.Settled` - no connect or disconnect is left to do, up to starting the loop
* `Session.Listening` - the events of the engine reach the session, or will as soon as the loop is started
* `Session.Faithful` - what a settled session believes

## Main results

* `isConnected_eq_of_quiescent` - when nothing is left to do and every event of a running loop has been
  delivered, the session is connected exactly when its engine is
-/

namespace BrokerSession

/-- Whether a task asks for a connection, or for its end. -/
def Task.links (task : Task) : Bool := task.connects || task.disconnects

namespace Session

variable {c : Config} {s t : Session Loopback}

/-- Whether no connect or disconnect is left to do. A connect that was accepted and whose loop is being started
counts as done. -/
def Settled (s : Session Loopback) : Prop :=
  (∀ k ∈ s.queue.backlog, k.task.links = false) ∧
    ∀ x, s.exchange = some x → x.job.task.links = true → x.command = .startLoop

/-- Whether the events of the engine reach the session, or will as soon as the loop is started. -/
def Listening (s : Session Loopback) : Prop :=
  s.engine.receiver = .running ∨ s.said = some .startLoop

/-- What holds of a session that its owner has, over an engine that refuses nothing. -/
structure Faithful (s : Session Loopback) : Prop where
  order : s.Orderly
  present : s.tornDown = false
  registered : ∃ listener, s.directory.lookup? s.key = some listener
  kept : ∀ k ∈ s.pending, k.task ≠ .destroy
  candid : s.engine.Candid s.said
  /-- Before the first connect the session does not believe in a connection. -/
  untried : s.engine.endpoint = none → s.standing.isConnected = false
  /-- A settled session that listens agrees with the engine once it has heard everything. -/
  hearing : s.Settled → s.Listening → s.engine.tidings = [] →
    s.standing.isConnected = s.engine.connected
  /-- A settled session that does not listen is not connected. -/
  deaf : s.Settled → ¬ s.Listening → s.standing.isConnected = false ∧ s.engine.connected = false

/-! ## Orders -/

theorem Order.standing_of_unlinked {o : Order} {st : Standing} {ticket : Ticket}
    (unlinked : ∀ k ∈ o.jobs c st.running ticket, k.task.links = false) : o.standing st = st := by
  cases o with
  | request op =>
    cases op with
    | disconnect =>
      cases running : st.running with
      | true => simp [jobs, tasks, running, Task.links, Task.disconnects] at unlinked
      | false => simp [standing, running]
    | _ => simp_all [jobs, tasks, standing, connects, Task.links, Task.connects]
  | mark => rfl
  | letGo =>
    cases running : st.running with
    | true => simp [jobs, tasks, running, Task.links, Task.disconnects] at unlinked
    | false => simp [standing, running]

theorem Order.isConnected_standing {o : Order} {st : Standing} (unconnected : st.isConnected = false) :
    (o.standing st).isConnected = false := by
  cases o with
  | request op => cases op <;> simp only [standing, connects] <;> grind [Standing.isConnected]
  | mark => exact unconnected
  | letGo => simp only [standing]; grind [Standing.isConnected]

/-- A session that is settled after an order was settled before, and the order has left it where it was. -/
theorem settled_of_obey {o : Order} (present : s.tornDown = false)
    (taking : s.queue.isClosed = false) (settled : (s.obey c o).Settled) :
    s.Settled ∧ o.standing s.standing = s.standing := by
  rw [obey_eq present taking] at settled
  obtain ⟨backlog, exchange⟩ := settled
  refine ⟨⟨fun k hk => backlog k (List.mem_append_left _ hk), exchange⟩, ?_⟩
  exact Order.standing_of_unlinked fun k hk => backlog k (List.mem_append_right _ hk)

namespace Faithful

theorem obey {o : Order} (h : s.Faithful) (stays : o.isLetGo = false) : (s.obey c o).Faithful := by
  have order := h.order.obey (c := c) o
  have taking := h.order.taking h.present
  have before := settled_of_obey (c := c) (o := o) h.present taking
  rw [obey_eq h.present taking] at order before ⊢
  refine ⟨order, stays, h.registered, ?_, h.candid, ?_, ?_, ?_⟩
  · intro k hk
    simp only [pending, ← List.append_assoc] at hk
    rcases List.mem_append.mp hk with old | new
    · exact h.kept k old
    · obtain ⟨task, brought, rfl⟩ := List.mem_map.mp new
      rintro rfl
      exact Order.destroy_notMem_tasks stays brought
  · exact fun untried => Order.isConnected_standing (h.untried untried)
  · intro after listening heard
    obtain ⟨settled, same⟩ := before after
    rw [← h.hearing settled listening heard]
    exact congrArg Standing.isConnected same
  · intro after unheard
    obtain ⟨settled, same⟩ := before after
    obtain ⟨phase, engine⟩ := h.deaf settled unheard
    exact ⟨(congrArg Standing.isConnected same).trans phase, engine⟩

/-- A step that touches neither the connection nor the loop, and after which the session is settled only if it was
before, keeps the session faithful. -/
theorem of_alike (h : s.Faithful) (order : t.Orderly) (present : t.tornDown = false)
    (registered : ∃ listener, t.directory.lookup? t.key = some listener)
    (remain : ∀ k ∈ t.pending, k ∈ s.pending) (same : Loopback.Alike s.engine t.engine)
    (stays : t.standing = s.standing)
    (stop : t.said = some .stopLoop ↔ s.said = some .stopLoop)
    (start : t.said = some .startLoop ↔ s.said = some .startLoop)
    (settled : t.Settled → s.Settled) : t.Faithful := by
  have listening : t.Listening ↔ s.Listening := by
    rw [Listening, Listening, same.receiver, start]
  refine ⟨order, present, registered, fun k hk => h.kept k (remain k hk), same.candid h.candid stop,
    ?_, ?_, ?_⟩
  · rw [same.endpoint, stays]
    exact h.untried
  · intro after hears heard
    rw [stays, same.connected]
    exact h.hearing (settled after) (listening.mp hears) (same.tidings ▸ heard)
  · intro after unheard
    rw [stays, same.connected]
    exact h.deaf (settled after) fun hears => unheard (listening.mpr hears)

/-! ## The worker -/

theorem awaitsLoop_of_opening {task : Task} {cmd : Command} (opens : task.opening = .command cmd)
    (kept : task ≠ .destroy) : Loopback.awaitsLoop cmd = false := by
  cases task <;> simp only [Task.opening] at opens <;> grind [Loopback.awaitsLoop]

/-- Only an engine that was let go costs a session its registration. -/
theorem registered_heed {x : Exchange} {engine : Loopback} (h : s.Faithful)
    (lasts : x.command ≠ .destroy) (r : Reply) :
    ∃ listener, ({ s with engine }.heed x r).directory.lookup? s.key = some listener := by
  rw [directory_heed lasts]
  exact h.registered

/-- A connect was accepted, and its loop is to be started: there is news about the connection. -/
theorem goOn_connect {x : Exchange} {r : Reply} {engine : Loopback} {earlier : Option Status}
    (h : s.Faithful) (busy : s.exchange = some x)
    (answered : s.engine.finish x.command = some (r, engine))
    (opens : x.job.task.opening = .command x.command) (connects : x.job.task.connects = true)
    (accepted : r.status.isSuccess = true)
    (order : (({ s with engine }.heed x r).say Loopback.engine x.job .startLoop earlier).Orderly) :
    (({ s with engine }.heed x r).say Loopback.engine x.job .startLoop earlier).Faithful := by
  have link := Task.connect_of_opening opens connects
  have quiet : x.command ≠ .stopLoop := (Task.opening_ne_loop opens).2
  have heard := said_of_busy busy
  have stays : x.standing r s.standing = s.standing := by
    rcases link with eq | ⟨host, port, keepAlive, eq⟩ <;> simp [Exchange.standing, eq, accepted]
  have lasts : x.command ≠ .destroy := by
    rcases link with eq | ⟨host, port, keepAlive, eq⟩ <;> simp [eq]
  rcases Loopback.finish_connect h.candid.willing answered link with
    ⟨-, there, told⟩ | ⟨refused, -⟩
  · have same : Loopback.Alike engine (engine.call .startLoop) := Loopback.alike_call rfl
    have candid : engine.Candid (some x.command) :=
      told.candid h.candid (by rw [heard])
        fun stop => absurd (Option.some.inj (heard.symm.trans stop)) quiet
    -- The broker's answer is still on its way to the session, so they need not agree yet.
    have news : (engine.call .startLoop).tidings ≠ [] := by
      rw [same.tidings, told.tidings]
      exact List.append_ne_nil_of_right_ne_nil _ (List.cons_ne_nil _ _)
    refine ⟨order, h.present, ?_, ?_, ?_, ?_, ?_, ?_⟩
    · exact h.registered_heed lasts r
    · exact h.kept
    · exact same.candid candid ⟨fun eq => (by cases eq), fun eq => absurd (Option.some.inj eq) quiet⟩
    · intro untried
      refine (congrArg Standing.isConnected stays).trans (h.untried (told.tried ?_).1)
      exact same.endpoint.symm.trans untried
    · exact fun _ _ silent => absurd silent news
    · exact fun _ unheard => absurd (.inr rfl) unheard
  · rw [refused] at accepted
    cases accepted

/-- A disconnect was answered, and the loop is to be stopped: there is no connection any more. -/
theorem goOn_disconnect {x : Exchange} {r : Reply} {engine : Loopback} {earlier : Option Status}
    (h : s.Faithful) (busy : s.exchange = some x)
    (answered : s.engine.finish x.command = some (r, engine))
    (ends : x.job.task.disconnects = true) (last : x.command = .disconnect)
    (order : (({ s with engine }.heed x r).say Loopback.engine x.job .stopLoop earlier).Orderly) :
    (({ s with engine }.heed x r).say Loopback.engine x.job .stopLoop earlier).Faithful := by
  have heard : s.said = some .disconnect := last ▸ said_of_busy busy
  have lasts : x.command ≠ .destroy := by rw [last]; intro eq; cases eq
  have stays : x.standing r s.standing = s.standing := by simp [Exchange.standing, last]
  rw [last] at answered
  obtain ⟨cut, alike⟩ := Loopback.finish_disconnect h.candid.willing answered
  have candid : engine.Candid (some .disconnect) := by
    rcases alike with same | told
    · exact same.candid h.candid (by rw [heard])
    · exact told.candid h.candid (by rw [heard]) fun _ => rfl
  have tried : engine.endpoint = none → s.engine.endpoint = none := by
    rcases alike with same | told
    · exact same.endpoint.symm.trans
    · exact fun untried => (told.tried untried).1
  -- Until the loop is stopped the disconnect is left to do.
  have unsettled : ¬ (({ s with engine }.heed x r).say Loopback.engine x.job .stopLoop earlier).Settled := by
    rintro ⟨-, exchange⟩
    have started := exchange _ rfl (by simp [Task.links, ends])
    cases started
  refine ⟨order, h.present, ?_, ?_, ?_, ?_, ?_, ?_⟩
  · exact h.registered_heed lasts r
  · exact h.kept
  · exact candid.callStopLoop (fun eq => by cases eq) cut
  · intro untried
    refine (congrArg Standing.isConnected stays).trans (h.untried (tried ?_))
    exact (Loopback.call_endpoint engine .stopLoop).symm.trans untried
  · exact fun settled => absurd settled unsettled
  · exact fun settled => absurd settled unsettled

/-- The loop was started: the session listens. -/
theorem finish_startLoop {x : Exchange} {r reply : Reply} {engine : Loopback} (h : s.Faithful)
    (busy : s.exchange = some x) (answered : s.engine.finish x.command = some (r, engine))
    (last : x.command = .startLoop)
    (order : (({ s with engine }.heed x r).complete x.job reply).Orderly)
    (remain : ∀ k ∈ (({ s with engine }.heed x r).complete x.job reply).pending, k ∈ s.pending) :
    (({ s with engine }.heed x r).complete x.job reply).Faithful := by
  have heard : s.said = some .startLoop := last ▸ said_of_busy busy
  have lasts : x.command ≠ .destroy := by rw [last]; intro eq; cases eq
  have stays : x.standing r s.standing = s.standing := by simp [Exchange.standing, last]
  rw [last] at answered
  have moved := Loopback.finish_startLoop h.candid.willing answered
  obtain ⟨candid, running⟩ := h.candid.started (by rw [heard]; intro eq; cases eq)
  rw [← moved] at candid running
  have same : engine.tidings = s.engine.tidings ∧ engine.connected = s.engine.connected ∧
      engine.endpoint = s.engine.endpoint := by
    rw [moved]
    split <;> exact ⟨rfl, rfl, rfl⟩
  refine ⟨order, h.present, ?_, fun k hk => h.kept k (remain k hk), candid, ?_, ?_, ?_⟩
  · exact h.registered_heed lasts r
  · intro untried
    exact (congrArg Standing.isConnected stays).trans (h.untried (same.2.2.symm.trans untried))
  · -- A connect whose loop is being started counted as done, so the session was settled before.
    rintro ⟨backlog, -⟩ - silent
    refine (congrArg Standing.isConnected stays).trans (Eq.trans ?_ same.2.1.symm)
    refine h.hearing ⟨backlog, fun y speaks _ => ?_⟩ (.inr heard) (same.1.symm.trans silent)
    rw [busy] at speaks
    rw [← Option.some.inj speaks]
    exact last
  · exact fun _ unheard => absurd (.inl running) unheard

/-- The loop was stopped: the session rests without a connection, or has a connect behind. -/
theorem finish_stopLoop {x : Exchange} {r reply : Reply} {engine : Loopback} (h : s.Faithful)
    (busy : s.exchange = some x) (answered : s.engine.finish x.command = some (r, engine))
    (ends : x.job.task.disconnects = true) (last : x.command = .stopLoop)
    (order : (({ s with engine }.heed x r).complete x.job reply).Orderly)
    (remain : ∀ k ∈ (({ s with engine }.heed x r).complete x.job reply).pending, k ∈ s.pending) :
    (({ s with engine }.heed x r).complete x.job reply).Faithful := by
  have heard : s.said = some .stopLoop := last ▸ said_of_busy busy
  have lasts : x.command ≠ .destroy := by rw [last]; intro eq; cases eq
  rw [last] at answered
  obtain ⟨still, rfl⟩ := Loopback.finish_stopLoop h.candid.willing answered
  have cut := h.candid.cut heard
  -- A session that is meant to run has a connect behind this disconnect, and is not settled.
  have rests (backlog : ∀ k ∈ s.queue.backlog, k.task.links = false) :
      (x.standing r s.standing).isConnected = false := by
    cases running : s.standing.running with
    | false => simp [Exchange.standing, last, running, Standing.isConnected]
    | true =>
      have followed := h.order.running running
      rw [h.order.pending_of_busy busy] at followed
      obtain ⟨k, behind, connects⟩ := followed.1 ends
      have unlinked := backlog k behind
      rw [Task.links, connects] at unlinked
      cases unlinked
  refine ⟨order, h.present, ?_, fun k hk => h.kept k (remain k hk), h.candid.stopped still, ?_, ?_, ?_⟩
  · exact h.registered_heed lasts r
  · intro untried
    have before := h.untried untried
    simp only [complete, resolve, heed, Exchange.standing, last]
    split
    · exact before
    · rfl
  · rintro ⟨backlog, -⟩ - -
    exact (rests backlog).trans cut.symm
  · rintro ⟨backlog, -⟩ -
    exact ⟨rests backlog, cut⟩

/-- A reconnect without a broker was refused: there is no connection, and the session does not believe in one. -/
theorem finish_refused {x : Exchange} {r reply : Reply} {engine : Loopback} (h : s.Faithful)
    (busy : s.exchange = some x) (answered : s.engine.finish x.command = some (r, engine))
    (opens : x.job.task.opening = .command x.command) (connects : x.job.task.connects = true)
    (refused : r.status.isSuccess = false)
    (order : (({ s with engine }.heed x r).complete x.job reply).Orderly)
    (remain : ∀ k ∈ (({ s with engine }.heed x r).complete x.job reply).pending, k ∈ s.pending) :
    (({ s with engine }.heed x r).complete x.job reply).Faithful := by
  have link := Task.connect_of_opening opens connects
  have quiet : x.command ≠ .stopLoop := (Task.opening_ne_loop opens).2
  have heard := said_of_busy busy
  have lasts : x.command ≠ .destroy := by
    rcases link with eq | ⟨host, port, keepAlive, eq⟩ <;> simp [eq]
  rcases Loopback.finish_connect h.candid.willing answered link with ⟨accepted, -⟩ | ⟨-, rfl, none⟩
  · rw [refused] at accepted
    cases accepted
  · obtain ⟨unconnected, -⟩ := h.candid.untried none
    have believes : (x.standing r s.standing).isConnected = false := by
      have before := h.untried none
      rcases link with eq | ⟨host, port, keepAlive, eq⟩ <;>
        · simp only [Exchange.standing, eq]
          grind [Standing.isConnected]
    have same : Loopback.Alike s.engine s.engine := ⟨rfl, rfl, rfl, rfl, rfl, rfl, rfl⟩
    refine ⟨order, h.present, ?_, fun k hk => h.kept k (remain k hk), ?_, fun _ => believes,
      fun _ _ _ => believes.trans unconnected.symm, fun _ _ => ⟨believes, unconnected⟩⟩
    · exact h.registered_heed lasts r
    · refine same.candid h.candid ⟨fun eq => (by cases eq), fun eq => ?_⟩
      exact absurd (Option.some.inj (heard.symm.trans eq)) quiet

theorem workerStep (h : s.Faithful) (step : WorkerStep Loopback.engine s t) : t.Faithful := by
  have order := h.order.workerStep step
  have remain : ∀ k ∈ t.pending, k ∈ s.pending := (h.order.pending_suffix step).subset
  cases step with
  | @dismiss job rest reply free alive waits dismissed =>
    -- The engine is told nothing, and the job that is settled had nothing to do with the connection.
    have silent := said_of_free free
    obtain ⟨connects, ends⟩ := Task.links_of_dismissal? dismissed
    refine h.of_alike order h.present h.registered remain ⟨rfl, rfl, rfl, rfl, rfl, rfl, rfl⟩ rfl
      (by rw [silent]; rfl) (by rw [silent]; rfl) ?_
    rintro ⟨backlog, -⟩
    refine ⟨fun k hk => ?_, fun x busy => by rw [free] at busy; cases busy⟩
    rw [waits] at hk
    rcases List.mem_cons.mp hk with rfl | later
    · rw [Task.links, connects, ends]
      rfl
    · exact backlog k later
  | @begin job rest cmd free alive waits opens =>
    have silent := said_of_free free
    obtain ⟨unstarted, unstopped⟩ := Task.opening_ne_loop opens
    have here : job ∈ s.pending := by
      rw [h.order.pending_of_free free, waits]
      exact List.mem_cons_self
    have prompt := awaitsLoop_of_opening opens (h.kept job here)
    have other {loop : Command} (ne : cmd ≠ loop) :
        some cmd = some loop ↔ s.said = some loop := by
      rw [silent]
      exact ⟨fun eq => absurd (Option.some.inj eq) ne, fun eq => by cases eq⟩
    refine h.of_alike order h.present h.registered remain (Loopback.alike_call prompt) rfl
      (other unstopped) (other unstarted) ?_
    rintro ⟨backlog, exchange⟩
    refine ⟨fun k hk => ?_, fun x busy => by rw [free] at busy; cases busy⟩
    rw [waits] at hk
    rcases List.mem_cons.mp hk with rfl | later
    · -- A connect or disconnect at work leaves the session unsettled unless it only starts its loop.
      by_contra link
      exact unstarted (exchange _ rfl (by simpa using link))
    · exact backlog k later
  | retire free alive empty closed =>
    -- The queue of a session that was not let go is open, so its worker does not retire.
    have taking := h.order.taking h.present
    simp [WorkQueue.isClosed, closed] at taking
  | @goOn x r engine cmd earlier busy answered follows =>
    obtain ⟨a, before, talk⟩ := h.order.talking x busy
    rcases talk.next follows with ⟨opens, ⟨connects, accepted, rfl⟩ | ⟨ends, last, rfl⟩⟩
    · exact h.goOn_connect busy answered opens connects accepted order
    · exact h.goOn_disconnect busy answered ends last order
  | @finish x r engine reply busy answered follows =>
    obtain ⟨a, before, talk⟩ := h.order.talking x busy
    rcases talk.last follows with ⟨-, last⟩ | ⟨connects, opens, refused⟩ | ⟨ends, last⟩ |
      ⟨connects, ends, opens⟩
    · exact h.finish_startLoop busy answered last order remain
    · exact h.finish_refused busy answered opens connects refused order remain
    · exact h.finish_stopLoop busy answered ends last order remain
    · -- What is left is a request about messages, which moves neither the session nor the connection.
      obtain ⟨unstarted, unstopped⟩ := Task.opening_ne_loop opens
      have here : x.job ∈ s.pending := by
        rw [h.order.pending_of_busy busy]
        exact List.mem_cons_self
      have message := Task.message_of_opening opens connects ends (h.kept x.job here)
      have lasts : x.command ≠ .destroy := by
        rcases message with ⟨_, _, _, _, eq⟩ | ⟨_, _, eq⟩ | ⟨_, eq⟩ <;> simp [eq]
      have other {loop : Command} (ne : x.command ≠ loop) : none = some loop ↔ s.said = some loop := by
        rw [said_of_busy busy]
        exact ⟨fun eq => (by cases eq), fun eq => absurd (Option.some.inj eq) ne⟩
      refine h.of_alike order h.present (h.registered_heed lasts r) remain
        (Loopback.finish_message h.candid.willing answered message)
        (Exchange.standing_of_message opens connects ends) (other unstopped) (other unstarted) ?_
      rintro ⟨backlog, -⟩
      refine ⟨backlog, fun y speaks link => ?_⟩
      rw [busy] at speaks
      rw [← Option.some.inj speaks, Task.links, connects, ends] at link
      cases link

/-! ## The event loop and the broker -/

theorem event {event : EngineEvent} {rest : List Loopback.Mail} (h : s.Faithful)
    (running : s.engine.receiver = .running) (waits : s.engine.mailbox = .event event :: rest)
    (order : (hear { s with engine := { s.engine with mailbox := rest } } event).Orderly) :
    (hear { s with engine := { s.engine with mailbox := rest } } event).Faithful := by
  obtain ⟨listener, here⟩ := h.registered
  obtain ⟨candid, spoken⟩ := h.candid.event waits
  have moved := hear_of_registered (s := { s with engine := { s.engine with mailbox := rest } }) here event
  rw [moved] at order ⊢
  refine ⟨order, h.present, ⟨listener, here⟩, h.kept, candid, ?_, ?_, ?_⟩
  · intro untried
    have before := h.untried untried
    cases link : event.link? with
    | none => rw [Listener.advance_of_link?_eq_none link]; exact before
    | some there =>
      rw [Listener.isConnected_advance link]
      cases there with
      | false => rfl
      | true =>
        refine absurd ?_ (h.candid.untried untried).2
        rw [spoken, link]
        exact List.mem_cons_self
  · intro settled _ silent
    cases link : event.link? with
    | none =>
      rw [Listener.advance_of_link?_eq_none link]
      refine h.hearing settled (.inl running) ?_
      rw [spoken, link]
      exact silent
    | some there =>
      -- Nothing more waits behind this event, so it is the last word about the connection.
      rw [Listener.isConnected_advance link]
      refine h.candid.news there ?_
      rw [spoken, link, show Loopback.tidings _ = [] from silent]
      rfl
  · exact fun _ unheard => absurd (.inl running) unheard

theorem marker {rest : List Loopback.Mail} (h : s.Faithful)
    (waits : s.engine.mailbox = .stop :: rest)
    (order : Orderly { s with engine := { s.engine with mailbox := rest, receiver := .ended } }) :
    Faithful { s with engine := { s.engine with mailbox := rest, receiver := .ended } } := by
  obtain ⟨stopping, candid⟩ := h.candid.marker waits
  have unsettled : ¬ s.Settled := by
    obtain ⟨x, busy, last⟩ := Option.map_eq_some_iff.mp stopping
    obtain ⟨a, before, talk⟩ := h.order.talking x busy
    rintro ⟨-, exchange⟩
    cases talk with
    | opening opens => exact (Task.opening_ne_loop opens).2 last
    | startLoop => cases last
    | stopLoop ends =>
      have started := exchange _ busy (by simp [Task.links, ends])
      cases started
  exact ⟨order, h.present, h.registered, h.kept, candid, h.untried,
    fun settled => absurd settled unsettled, fun settled => absurd settled unsettled⟩

theorem drop (h : s.Faithful) (code : Int)
    (order : Orderly { s with engine := s.engine.dropConnection code }) :
    Faithful { s with engine := s.engine.dropConnection code } := by
  have told := Loopback.told_dropConnection h.candid.willing code
  have news : (s.engine.dropConnection code).tidings ≠ [] := by
    rw [told.tidings]
    exact List.append_ne_nil_of_right_ne_nil _ (List.cons_ne_nil _ _)
  refine ⟨order, h.present, h.registered, h.kept, told.candid h.candid Iff.rfl fun _ => rfl, ?_, ?_, ?_⟩
  · exact fun untried => h.untried (told.tried untried).1
  · exact fun _ _ silent => absurd silent news
  · intro settled unheard
    refine ⟨(h.deaf settled fun hears => unheard ?_).1, told.connected⟩
    exact hears.imp_left told.receiver.trans

end Faithful

/-! ## Runs -/

/-- Whether a move belongs to a session that its owner keeps, while nothing happens to its engine but that the broker
goes away. -/
def Move.Kept : Move Loopback → Prop
  | .order o => o.isLetGo = false
  | .outside f => ∃ code, f = (·.dropConnection code)
  | .close | .clearDirectory | .crash => False
  | .work | .deliver | .pass _ => True

namespace Faithful

theorem move {m : Move Loopback} (h : s.Faithful) (kept : m.Kept)
    (made : s.move? Loopback.engine c m = some t) : t.Faithful := by
  have order : t.Orderly := h.order.move (fun crash => by rw [crash] at kept; exact kept) made
  cases m with
  | order o =>
    obtain rfl := Option.some.inj made
    exact h.obey kept
  | work => exact h.workerStep (workerStep_of_workerStep? made)
  | deliver =>
    obtain ⟨running, rest, ⟨event, waits, rfl⟩ | ⟨waits, rfl⟩⟩ := loopStep?_loopback made
    · exact h.event running waits order
    · exact h.marker waits order
  | pass millis =>
    obtain rfl := Option.some.inj made
    exact ⟨order, h.present, h.registered, h.kept, h.candid, h.untried, h.hearing, h.deaf⟩
  | outside f =>
    obtain ⟨code, rfl⟩ := kept
    obtain rfl := Option.some.inj made
    exact h.drop code order
  | close | clearDirectory | crash => exact kept.elim

theorem of_establish {hosted : Bool} {fs : Files} {env : Environment} {clientId : String}
    {wanted : List Notice.Kind} {directory : Directory Listener} {delays : List (String × Nat)}
    {code : Int} {engine : Loopback}
    (established : establish Loopback.engine hosted fs env c clientId wanted directory
      (.fresh [] delays code) = (.ok s, engine)) : s.Faithful := by
  have order := orderly_of_establish established
  obtain ⟨calls, unused⟩ := engine_of_establish established
  obtain ⟨staged, -, rfl⟩ := establish_eq_ok established
  dsimp only at unused
  have candid : (Loopback.engine.attach staged).Candid none := by
    rw [unused]
    refine ⟨⟨rfl, rfl, fun lost => by cases lost⟩, ?_, fun _ => ⟨rfl, ?_⟩, .inl rfl, ?_, fun _ => rfl⟩
    · intro there last
      cases last
    · exact List.not_mem_nil
    · intro ended
      cases ended
  refine ⟨order, rfl, ⟨_, Directory.lookup?_register ..⟩, ?_, candid, fun _ => rfl, ?_, ?_⟩
  · intro k hk
    cases hk
  · intro _ _ _
    dsimp only
    rw [unused]
    rfl
  · intro _ _
    dsimp only
    rw [unused]
    exact ⟨rfl, rfl⟩

end Faithful

/-- Over an engine that refuses nothing, and whatever the owner asks for and the broker does: when nothing is left to
do and every event of a running loop has been delivered, the session is connected exactly when its engine is. -/
theorem isConnected_eq_of_quiescent {hosted : Bool} {fs : Files} {env : Environment}
    {clientId : String} {wanted : List Notice.Kind} {directory : Directory Listener}
    {delays : List (String × Nat)} {code : Int} {engine : Loopback}
    (established : establish Loopback.engine hosted fs env c clientId wanted directory
      (.fresh [] delays code) = (.ok s, engine))
    (ms : List (Move Loopback)) (kept : ∀ m ∈ ms, m.Kept)
    (idle : (s.after Loopback.engine c ms).queue.isIdle = true)
    (delivered : (s.after Loopback.engine c ms).engine.receiver = .running →
      (s.after Loopback.engine c ms).engine.mailbox = []) :
    (s.after Loopback.engine c ms).standing.isConnected =
      (s.after Loopback.engine c ms).engine.connected := by
  have faithful : (s.after Loopback.engine c ms).Faithful :=
    after_induction (.of_establish established) fun t ht m hm u made => ht.move (kept m hm) made
  obtain ⟨backlog, active⟩ := (WorkQueue.isIdle_iff _).mp idle
  have free : (s.after Loopback.engine c ms).exchange = none := by
    have working := faithful.order.working
    rw [active] at working
    exact Option.map_eq_none_iff.mp working.symm
  have settled : (s.after Loopback.engine c ms).Settled := by
    refine ⟨fun k hk => ?_, fun x busy => ?_⟩
    · rw [backlog] at hk
      cases hk
    · rw [free] at busy
      cases busy
  -- A running loop has told everything; without one the session is where its loop has left it.
  by_cases running : (s.after Loopback.engine c ms).engine.receiver = .running
  · refine faithful.hearing settled (.inl running) ?_
    rw [Loopback.tidings, delivered running]
    rfl
  · have unheard : ¬ (s.after Loopback.engine c ms).Listening := by
      rintro (hears | started)
      · exact running hears
      · rw [said, free] at started
        cases started
    obtain ⟨phase, gone⟩ := faithful.deaf settled unheard
    exact phase.trans gone.symm

/-- A session whose broker goes away while a disconnect and another connect wait is connected in the end, like its
engine. -/
theorem isConnected_eq_of_quiescent_again :
    let c := Config.ofEndpoint "sensor" "broker" 1883 60
    let ms : List (Move Loopback) :=
      [.order (.request .connectConfigured), .work, .work, .work, .order (.request .disconnect),
        .order (.request .reconnect), .outside (·.dropConnection 7), .deliver, .work, .work, .deliver,
        .deliver, .work, .work, .work, .work, .deliver]
    ∃ s engine,
      establish Loopback.engine true .empty [] c "sensor" [] .empty (.fresh [] [] 0) = (.ok s, engine) ∧
      (s.after Loopback.engine c ms).standing.isConnected =
        (s.after Loopback.engine c ms).engine.connected := by
  refine ⟨_, _, rfl, ?_⟩
  refine isConnected_eq_of_quiescent (show establish Loopback.engine true .empty []
    (.ofEndpoint "sensor" "broker" 1883 60) "sensor" [] .empty (.fresh [] [] 0) = (.ok _, _) from rfl)
    _ ?_ rfl fun _ => rfl
  simp only [List.forall_mem_cons, Move.Kept, Order.isLetGo, true_and]
  exact ⟨⟨7, rfl⟩, fun m hm => by cases hm⟩

end Session

end BrokerSession
