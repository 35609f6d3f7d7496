import BrokerSession.Proofs.Loopback.Drained
import BrokerSession.Proofs.Loopback.Emissions
import BrokerSession.Proofs.Session.LastJob
import BrokerSession.Proofs.Session.Messages
import BrokerSession.Proofs.Session.Progress
import BrokerSession.Proofs.Session.Rest

/-!
# The end of a session

A session that is let go has a last job, behind everything that was asked for: it lets the engine go and takes the
session out of the directory. When that job is done its application has been told everything that the engine has
emitted, in order and once, and nothing will change any more.

The disconnect before the last job is what makes it so. The engine emits its last event, which is about the connection
if there still is one, and its loop is stopped behind it; the worker waits for the loop, and the loop ends only when it
has delivered what was emitted before. So the last job finds the engine without a loop and without mail, and the session
disconnected.

## Main definitions

* `Session.Move.Own` - the moves of a session that has its engine and its directory to itself
* `Session.Steady` - what holds of such a session, and of what its engine has heard
* `Session.Accounts` - everything that the engine has emitted was told, or will be
* `Session.Departed` - a session that is gone

## Main results

* `Accounts.move` - no event gets lost, up to the end
* `Steady.departed` - a session that is not in the directory any more is gone, and disconnected
* `Departed.move` - nothing changes in a session that is gone
* `farewell_of_letGo` - a session that is let go leaves the directory when all this is done, and is silent from then on
-/

namespace BrokerSession

/-! ## The commands of a job leave no mail behind -/

namespace Loopback.Drained

variable {s t : Loopback} {x : Exchange} {a : Command → Reply} {before : List Command} {cmd : Command} {r reply : Reply}
  {earlier : Option Status}

/-- The engine has answered, and hears another command of the same job. -/
theorem goOn (h : s.Drained (some x.command)) (talk : x.Talk a before) (follows : x.sequel r = .say cmd earlier)
    (answered : s.finish x.command = some (r, t)) : (t.call cmd).Drained (some cmd) := by
  rcases talk.next follows with ⟨opens, ⟨connects, accepted, rfl⟩ | ⟨ends, last, rfl⟩⟩
  · have quiet : some x.command ≠ some .stopLoop := fun same => (Task.opening_ne_loop opens).2 (Option.some.inj same)
    rcases finish_connect h.candid.willing answered (Task.connect_of_opening opens connects) with
      ⟨-, there, told⟩ | ⟨refused, -⟩
    · exact h.startLoop quiet told
    · rw [refused] at accepted
      cases accepted
  · rw [last] at h answered
    exact h.stopLoop answered

/-- The engine has answered, and the job is done. -/
theorem finish (h : s.Drained (some x.command)) (talk : x.Talk a before) (follows : x.sequel r = .done reply)
    (answered : s.finish x.command = some (r, t)) : t.Drained none ∧ (x.command = .destroy → t.receiver = .held) := by
  rcases talk.last follows with ⟨-, last⟩ | ⟨connects, opens, refused⟩ | ⟨ends, last⟩ | ⟨connects, ends, opens⟩
  · rw [last] at h answered ⊢
    exact ⟨h.started answered, nofun⟩
  · obtain ⟨unstarted, unstopped⟩ := Task.opening_ne_loop opens
    have link := Task.connect_of_opening opens connects
    have lasts : x.command ≠ .destroy := by
      rcases link with same | ⟨host, port, keepAlive, same⟩ <;> simp [same]
    rcases finish_connect h.candid.willing answered link with ⟨accepted, -⟩ | ⟨-, rfl, -⟩
    · rw [refused] at accepted
      cases accepted
    · exact ⟨h.refused (by simpa using unstopped) (by simpa using unstarted), fun last => absurd last lasts⟩
  · rw [last] at h answered ⊢
    exact ⟨h.stopped answered, nofun⟩
  · by_cases last : x.command = .destroy
    · rw [last] at h answered
      obtain ⟨drained, held⟩ := h.destroyed answered
      exact ⟨drained, fun _ => held⟩
    · have kept : x.job.task ≠ .destroy := talk.command_eq_destroy_iff.not.mp last
      exact ⟨h.message answered (Task.message_of_opening opens connects ends kept), fun same => absurd same last⟩

end Loopback.Drained

namespace Session

/-! ## Sessions left to themselves -/

section

variable {σ : Type}

/-- Whether a move belongs to a session that has its engine and its directory to itself, and whose worker does not
crash. -/
def Move.Own : Move σ → Prop
  | .outside _ => False
  | .clearDirectory => False
  | .crash => False
  | _ => True

theorem Move.Own.sound {m : Move σ} (own : m.Own) : m ≠ .crash := by
  rintro rfl
  exact own

end

section

variable {c : Config} {v : Loopback} {l : Listener} {s t : Session (Recorded Loopback)}

theorem Move.Own.recorded {m : Move Loopback} (own : m.Own) : m.recorded.Own := by
  cases m with
  | outside f => exact own.elim
  | clearDirectory | crash => exact own.elim
  | _ => trivial

theorem Move.Own.calm {m : Move Loopback} (own : m.Own) : m.Calm := by
  cases m with
  | outside f => exact own.elim
  | crash => exact own.elim
  | _ => trivial

theorem Move.Own.ordinary {m : Move Loopback} (own : m.Own) : m.Ordinary := by
  cases m with
  | outside f => exact own.elim
  | crash => exact own.elim
  | _ => trivial

/-- What holds of a session over a loopback engine that was given the commands of the run and nothing else. -/
structure Steady (v : Loopback) (s : Session (Recorded Loopback)) : Prop where
  order : s.Orderly
  enrolled : s.Enrolled False False
  closing : s.Closing
  replays : Replays v s
  restful : s.plain.Restful

namespace Steady

theorem move {m : Move Loopback} (h : Steady v s) (listens : v.attached = true) (own : m.Own)
    (made : s.move? Loopback.engine.recorded c m.recorded = some t) : Steady v t := by
  have sound := own.recorded.sound
  have plain : s.plain.move? Loopback.engine c m = some t.plain := by
    rw [← plain_move?, made]
    rfl
  have enrolled := h.enrolled.move made
  have uncleared : m.recorded ≠ .clearDirectory := by
    intro clears
    have own := own.recorded
    rw [clears] at own
    exact own
  simp only [uncleared, sound, false_and, or_false] at enrolled
  exact ⟨h.order.move sound made, enrolled, h.closing.move h.order sound made,
    h.replays.move listens h.order own.calm made, h.restful.move own.ordinary plain⟩

/-- A session with a job is in the directory. -/
theorem isRegistered_of_pending (h : Steady v s) (remains : s.pending ≠ []) : s.isRegistered = true := by
  by_contra out
  exact remains (h.enrolled.nil_of_unregistered h.closing (by simpa using out)).2

theorem isRegistered_of_busy {x : Exchange} (h : Steady v s) (busy : s.exchange = some x) : s.isRegistered = true := by
  apply h.isRegistered_of_pending
  rw [h.order.pending_of_busy busy]
  exact List.cons_ne_nil x.job s.queue.backlog

/-- A worker that comes to the last job finds the session disconnected, and no loop. -/
theorem atRest_of_destroy {job : Job} {rest : List Job} (h : Steady v s) (remain : s.pending = job :: rest)
    (letsGo : job.task = .destroy) : s.plain.AtRest := by
  obtain ⟨gone, rfl⟩ := h.enrolled.nil_of_destroy h.closing remain letsGo
  refine h.restful.atRest ⟨h.closing.rests gone, fun k among => ?_⟩
  obtain rfl : k = job := List.mem_singleton.mp (remain ▸ among :)
  rw [letsGo]
  rfl

end Steady

/-! ## Everything that was emitted is told -/

/-- Everything that the engine has emitted was told to the listener of the session, or waits to be. -/
structure Accounts (v : Loopback) (l : Listener) (s : Session (Recorded Loopback)) : Prop where
  listens : s.isRegistered = true → s.directory.lookup? s.key = some l
  drained : s.queue.worker = .alive → s.engine.inner.Drained s.said
  /-- When the session is not in the directory any more there is no loop, and nothing waits. -/
  silent : s.isRegistered = false → s.engine.inner.receiver ≠ .running ∧ s.engine.inner.mailbox = []
  /-- The engine was let go without a connection. -/
  cut : ∀ earlier, s.engine.heard = earlier ++ [.destroy] → (v.played earlier).connected = false
  account : s.told ++ s.engine.inner.events.filterMap l.tell? =
    (v.played s.engine.obeyed).events.filterMap l.tell?

namespace Accounts

/-- A job begins, with a command that the engine is ready for. -/
theorem begin {job : Job} {rest : List Job} {cmd : Command} (h : Accounts v l s) (steady : Steady v s)
    (free : s.exchange = none) (alive : s.queue.worker = .alive) (waits : s.queue.backlog = job :: rest)
    (opens : job.task.opening = .command cmd) :
    Accounts v l ({ s with queue := { s.queue with backlog := rest, active := some job } }.say
      Loopback.engine.recorded job cmd none) := by
  have remain : s.pending = job :: rest := by rw [steady.order.pending_of_free free, waits]
  have registered := steady.isRegistered_of_pending (remain ▸ List.cons_ne_nil job rest)
  have drained := h.drained alive
  rw [said_of_free free] at drained
  -- Only the last job has the command that lets the engine go, and it finds the engine without a loop.
  have held (letsGo : cmd = .destroy) : s.engine.inner.receiver = .held := by
    have last : job.task = .destroy := by
      subst letsGo
      cases task : job.task <;> simp only [task, Task.opening] at opens <;> grind
    exact (steady.atRest_of_destroy remain last).2.resolve_right drained.candid.willing.kept
  have even : s.engine.answered.length = s.engine.heard.length := by
    rw [(steady.replays.free free).1, Loopback.length_replies]
  have account := h.account
  rw [obeyed_of_free steady.replays free] at account
  refine ⟨h.listens, fun _ => ?_, fun out => ?_, fun earlier heard => ?_, account_of_say even account⟩
  · exact drained.begin (Task.opening_ne_loop opens) held
  · exact absurd (registered.symm.trans out) (by decide)
  · obtain ⟨rfl, last⟩ := List.append_inj' (heard : s.engine.heard ++ [cmd] = earlier ++ [.destroy]) rfl
    have unconnected := (drained.idle (held (List.cons.inj last).1) (by simp)).2
    have same := (steady.replays.free free).2 alive
    exact (congrArg Loopback.connected same).symm.trans unconnected

/-- The engine has answered, and hears another command of the job. What it has sent goes to the account. -/
theorem goOn {x : Exchange} {r : Reply} {engine : Recorded Loopback} {cmd : Command} {earlier : Option Status}
    (h : Accounts v l s) (steady : Steady v s) (listens : v.attached = true) (busy : s.exchange = some x)
    (answered : Loopback.engine.recorded.finish s.engine s.clock x.command = some (r, engine))
    (follows : x.sequel r = .say cmd earlier) :
    Accounts v l (({ s with engine }.heed x r).say Loopback.engine.recorded x.job cmd earlier) := by
  obtain ⟨a, before, talk⟩ := steady.order.talking x busy
  have registered := steady.isRegistered_of_busy busy
  -- Neither the command that was answered nor the next one is the last one of a session.
  have lasts : x.command ≠ .destroy := by
    intro last
    simp [Exchange.sequel, last] at follows
  have other : cmd ≠ .destroy := by
    rcases (talk.next follows).2 with ⟨-, -, same⟩ | ⟨-, -, same⟩ <;> simp [same]
  have stays : isRegistered (({ s with engine }.heed x r).say Loopback.engine.recorded x.job cmd earlier) =
      s.isRegistered := by
    rw [isRegistered, say, directory_heed lasts]
    rfl
  obtain ⟨even, account⟩ := account_of_answer h.account steady.replays listens busy answered
  refine ⟨fun _ => ?_, fun alive => ?_, fun out => ?_, fun earlier heard => ?_, account_of_say even ?_⟩
  · rw [say, directory_heed lasts]
    exact h.listens registered
  · have drained := h.drained alive
    rw [said_of_busy busy] at drained
    obtain ⟨inner, finished, rfl⟩ := Engine.finish_of_recorded answered
    exact drained.goOn talk follows finished
  · rw [stays, registered] at out
    cases out
  · have last := (List.append_inj' (heard : engine.heard ++ [cmd] = earlier ++ [.destroy]) rfl).2
    exact absurd (List.cons.inj last).1 other
  · rw [told_heed]
    exact account

/-- The engine has answered, and the job is done. When it was the last one, the engine has no loop, so nothing waits
that the application could miss. -/
theorem finish {x : Exchange} {r reply : Reply} {engine : Recorded Loopback} (h : Accounts v l s)
    (steady : Steady v s) (listens : v.attached = true) (busy : s.exchange = some x)
    (answered : Loopback.engine.recorded.finish s.engine s.clock x.command = some (r, engine))
    (follows : x.sequel r = .done reply) (alive : s.queue.worker = .alive) :
    Accounts v l (({ s with engine }.heed x r).complete x.job reply) := by
  obtain ⟨a, before, talk⟩ := steady.order.talking x busy
  have registered := steady.isRegistered_of_busy busy
  obtain ⟨even, account⟩ := account_of_answer h.account steady.replays listens busy answered
  have obeyed : engine.obeyed = engine.heard := by rw [Recorded.obeyed, even, List.take_length]
  rw [← obeyed] at account
  have told : (({ s with engine }.heed x r).complete x.job reply).told = s.told := told_heed _ x r
  have drained := h.drained alive
  rw [said_of_busy busy] at drained
  obtain ⟨inner, finished, rfl⟩ := Engine.finish_of_recorded answered
  obtain ⟨after, parted⟩ := drained.finish talk follows finished
  refine ⟨fun stays => ?_, fun _ => after, fun out => ?_, h.cut, ?_⟩
  · have lasts : x.command ≠ .destroy := by
      intro last
      simp [isRegistered, Directory.contains, complete, resolve, heed, last] at stays
    rw [complete, resolve, directory_heed lasts]
    exact h.listens registered
  · -- Nothing else takes a session out of the directory.
    have last : x.command = .destroy := by
      by_contra lasts
      rw [isRegistered, complete, resolve, directory_heed lasts] at out
      rw [isRegistered] at registered
      exact absurd (registered.symm.trans out) (by decide)
    have still : inner.receiver ≠ .running := fun running => absurd ((parted last).symm.trans running) (by decide)
    exact ⟨still, after.mailbox_eq_nil still (by simp)⟩
  · rw [told]
    exact account

/-- The worker ends only when everything was told. -/
theorem retire (h : Accounts v l s) (steady : Steady v s) (free : s.exchange = none) (empty : s.queue.backlog = [])
    (closed : s.queue.accepting = false) :
    Accounts v l { s with
      queue := { s.queue with worker := .ended }, engine := Loopback.engine.recorded.release s.engine } := by
  have gone : s.tornDown = true := by
    by_contra here
    have taking := steady.order.taking (by simpa using here)
    simp [WorkQueue.isClosed, closed] at taking
  have idle : s.queue.isIdle = true := by
    rw [WorkQueue.isIdle_iff, steady.order.working, free]
    exact ⟨empty, rfl⟩
  have out := steady.enrolled.unregistered_of_isIdle gone idle
  have lost : (Loopback.engine.recorded.release s.engine).inner.receiver = .lost := rfl
  refine ⟨h.listens, by simp, fun _ => ⟨by simp [lost], rfl⟩, h.cut, ?_⟩
  have account := h.account
  rw [Loopback.events, (h.silent out).2] at account
  exact account

theorem workerStep (h : Accounts v l s) (steady : Steady v s) (listens : v.attached = true)
    (step : WorkerStep Loopback.engine.recorded s t) : Accounts v l t := by
  cases step with
  | @dismiss job rest reply free alive waits dismissed =>
    have drained := h.drained
    rw [said_of_free free] at drained
    exact ⟨h.listens, drained, h.silent, h.cut, h.account⟩
  | begin free alive waits opens => exact h.begin steady free alive waits opens
  | retire free alive empty closed => exact h.retire steady free empty closed
  | goOn busy answered follows => exact h.goOn steady listens busy answered follows
  | @finish x r engine reply busy answered follows =>
    refine h.finish steady listens busy answered follows (steady.enrolled.alive ?_)
    rw [steady.order.working, busy]
    rfl

/-- The loop of a session that is in the directory tells what it takes out of the mailbox. -/
theorem deliver (h : Accounts v l s)
    (made : s.loopStep? Loopback.engine.recorded = some t) : Accounts v l t := by
  have running : s.engine.inner.receiver = .running := by
    have moved := plain_loopStep? (e := Loopback.engine) (s := s)
    rw [made] at moved
    exact (loopStep?_loopback moved.symm).1
  have registered : s.isRegistered = true := by
    by_contra out
    exact (h.silent (by simpa using out)).1 running
  have here := h.listens registered
  have account := account_of_deliver here h.account made
  obtain ⟨-, rest, ⟨event, waits, rfl⟩ | ⟨waits, rfl⟩⟩ := loopStep?_of_registered here made
  · exact ⟨h.listens, fun alive => (h.drained alive).event running waits,
      fun out => absurd (registered.symm.trans out) (by decide), h.cut, account⟩
  · exact ⟨h.listens, fun alive => ((h.drained alive).marker waits).2,
      fun out => absurd (registered.symm.trans out) (by decide), h.cut, account⟩

/-- No event gets lost. -/
theorem move {m : Move Loopback} (h : Accounts v l s) (steady : Steady v s) (listens : v.attached = true)
    (own : m.Own) (made : s.move? Loopback.engine.recorded c m.recorded = some t) : Accounts v l t := by
  cases m with
  | order o =>
    obtain rfl := Option.some.inj made
    cases here : s.tornDown with
    | true => rwa [obey_of_tornDown here]
    | false =>
      rw [obey_eq here (steady.order.taking here)]
      exact ⟨h.listens, h.drained, h.silent, h.cut, h.account⟩
  | work => exact h.workerStep steady listens (workerStep_of_workerStep? made)
  | deliver => exact h.deliver made
  | close =>
    obtain ⟨-, rfl⟩ := eq_of_close made
    exact ⟨h.listens, h.drained, h.silent, h.cut, h.account⟩
  | pass millis =>
    obtain rfl := Option.some.inj made
    exact ⟨h.listens, h.drained, h.silent, h.cut, h.account⟩
  | outside f => exact own.elim
  | clearDirectory | crash => exact own.elim

end Accounts

end

/-! ## A session that is gone -/

section

variable {σ : Type} {e : Engine σ} {c : Config} {s t : Session σ}

/-- Nothing comes in for a session that is not in the directory. -/
theorem hear_of_unregistered (out : s.directory.lookup? s.key = none) (event : EngineEvent) : s.hear event = s := by
  rw [hear, out]

/-- A session that is gone: it was let go, has nothing left to do, and is not in the directory any more. -/
structure Departed (s : Session σ) : Prop where
  gone : s.tornDown = true
  free : s.exchange = none
  idle : s.queue.isIdle = true
  out : s.directory.lookup? s.key = none

theorem foldl_receive_of_unregistered (reports : List Report) (out : s.directory.lookup? s.key = none) :
    ∃ journal, reports.foldl receive s = { s with journal := s.journal ++ journal } ∧
      journal.filterMap Entry.notice? = [] := by
  induction reports generalizing s with
  | nil => exact ⟨[], by simp, rfl⟩
  | cons report reports ih =>
    cases report with
    | event event =>
      rw [List.foldl_cons, receive, hear_of_unregistered out]
      exact ih out
    | retrying attempt delay =>
      obtain ⟨journal, heard, silent⟩ := ih (s := s.note (.retrying attempt delay)) out
      refine ⟨.retrying attempt delay :: journal, ?_, silent⟩
      rw [List.foldl_cons, receive, heard]
      simp [note]

/-- Nothing changes in a session that is gone. -/
theorem Departed.move {m : Move σ} (h : s.Departed) (made : s.move? e c m = some t) :
    t.Departed ∧ t.standing = s.standing ∧ t.told = s.told := by
  obtain ⟨backlog, active⟩ := (WorkQueue.isIdle_iff _).mp h.idle
  cases m with
  | order o =>
    obtain rfl := Option.some.inj made
    rw [obey_of_tornDown h.gone]
    exact ⟨h, rfl, rfl⟩
  | work =>
    -- The queue is empty and nothing is at work, so all that the worker can do is retire.
    cases workerStep_of_workerStep? made with
    | dismiss free alive waits => cases backlog.symm.trans waits
    | begin free alive waits => cases backlog.symm.trans waits
    | retire free alive empty closed => exact ⟨⟨h.gone, h.free, h.idle, h.out⟩, rfl, rfl⟩
    | goOn busy => cases h.free.symm.trans busy
    | finish busy => cases h.free.symm.trans busy
  | deliver =>
    obtain ⟨⟨reports, engine⟩, -, received⟩ := Option.map_eq_some_iff.mp made
    obtain ⟨journal, heard, silent⟩ := foldl_receive_of_unregistered (s := { s with engine }) reports h.out
    obtain rfl := heard.symm.trans received
    exact ⟨⟨h.gone, h.free, h.idle, h.out⟩, rfl, by simp [told, silent]⟩
  | crash =>
    obtain ⟨working, -⟩ := eq_of_crash made
    rw [active] at working
    cases working
  | close =>
    obtain ⟨-, rfl⟩ := eq_of_close made
    exact ⟨⟨h.gone, h.free, h.idle, h.out⟩, rfl, rfl⟩
  | pass | outside =>
    obtain rfl := Option.some.inj made
    exact ⟨⟨h.gone, h.free, h.idle, h.out⟩, rfl, rfl⟩
  | clearDirectory =>
    obtain rfl := Option.some.inj made
    exact ⟨⟨h.gone, h.free, h.idle, Directory.lookup?_clear ..⟩, rfl, rfl⟩

/-- Whatever happens to a session that is gone, nothing changes. -/
theorem Departed.after (h : s.Departed) (ms : List (Move σ)) :
    (s.after e c ms).Departed ∧ (s.after e c ms).standing = s.standing ∧ (s.after e c ms).told = s.told := by
  refine after_induction (P := fun u => u.Departed ∧ u.standing = s.standing ∧ u.told = s.told) ⟨h, rfl, rfl⟩ ?_
  intro u ⟨departed, standing, told⟩ m _ t made
  obtain ⟨stays, same, unheard⟩ := departed.move made
  exact ⟨stays, same.trans standing, unheard.trans told⟩

end

section

variable {v : Loopback} {l : Listener} {s : Session (Recorded Loopback)}

/-- A session that is not in the directory is gone, and disconnected. -/
theorem Steady.departed (h : Steady v s) (out : s.isRegistered = false) :
    s.plain.Departed ∧ s.standing = ⟨.disconnected, false⟩ := by
  obtain ⟨gone, remain⟩ := h.enrolled.nil_of_unregistered h.closing out
  obtain ⟨active, backlog⟩ := List.append_eq_nil_iff.mp remain
  have idle : s.queue.isIdle = true := (WorkQueue.isIdle_iff _).mpr ⟨backlog, Option.toList_eq_nil_iff.mp active⟩
  have rests := h.closing.rests gone
  have still : s.plain.AtRest := by
    refine h.restful.atRest ⟨rests, fun k among => ?_⟩
    rw [show s.plain.pending = [] from remain] at among
    cases among
  refine ⟨⟨gone, exchange_eq_none_of_idle h.order.working idle, idle, ?_⟩, ?_⟩
  · exact isRegistered_eq_false_iff.mp out
  · rw [show s.standing = ⟨s.plain.standing.phase, s.standing.running⟩ from rfl, still.1, rests]

/-- The application of a session that is not in the directory any more was told everything. -/
theorem Accounts.told_eq (h : Accounts v l s) (steady : Steady v s) (out : s.isRegistered = false) :
    s.told = (v.played s.engine.heard).events.filterMap l.tell? := by
  have account := h.account
  rw [obeyed_of_free steady.replays (steady.departed out).1.free, Loopback.events, (h.silent out).2] at account
  exact (List.append_nil _).symm.trans account

end

/-! ## What the orders of a session that is let go make of it -/

section

variable {c : Config} {v : Loopback} {os : List Order}

/-- Nothing is published without a topic. -/
theorem Task.isNamed_of_mem_block {task : Task} {a : Command → Reply} {cmd : Command} (among : cmd ∈ task.block a) :
    cmd.IsNamed := by
  cases cmd with
  | publish topic payload qos retain =>
    rintro rfl
    have fault : (Topic.nameFault? "").isSome = true := rfl
    cases task <;> simp only [Task.block] at among <;> grind
  | _ => trivial

/-- When the commands before the last one leave the engine without a connection, whoever had one in the course of them
has been sent an event about its end; and all events can be told. -/
theorem parted_of_cut (willing : v.Willing) (accepts : v.connected = true → v.connectCode = 0) (unsent : v.events = [])
    (letsGo : os.any Order.isLetGo = true) (last : os.Pairwise fun earlier _ => earlier.isLetGo = false)
    (cut : ∀ before, ((script c v os).flatMap fun d => d.1.task.block d.2) = before ++ [.destroy] →
      (v.played before).connected = false) :
    let said := (script c v os).flatMap fun d => d.1.task.block d.2
    let emitted := (v.played said).events
    (∃ before, said = before ++ [.destroy] ∧ .destroy ∉ before ∧
        ∀ early late, before = early ++ late → (v.played early).connected = true →
          ∃ sent, emitted = (v.played early).events ++ sent ∧ .disconnect 0 ∈ sent) ∧
      ∀ event ∈ emitted, event.notice? ≠ none := by
  intro said emitted
  obtain ⟨before, ends, once⟩ := exists_last_command (c := c) (v := v) letsGo last
  refine ⟨⟨before, ends, once, ?_⟩, ?_⟩
  · rintro early late rfl there
    have kept : Command.destroy ∉ late := fun among => once (List.mem_append_right _ among)
    obtain ⟨sent, events, parts⟩ := Loopback.exists_disconnect_of_cut willing accepts kept (cut _ ends) there [.destroy]
    refine ⟨sent, ?_, parts⟩
    rw [← events]
    exact congrArg (fun cmds => (v.played cmds).events) ends
  · obtain ⟨sent, events, told⟩ := Loopback.events_of_played willing said
    rw [unsent, List.nil_append] at events
    have named : ∀ cmd ∈ said, cmd.IsNamed := by
      intro cmd among
      obtain ⟨d, -, among⟩ := List.mem_flatMap.mp among
      exact Task.isNamed_of_mem_block among
    rw [show emitted = sent from events]
    exact told named

end

/-! ## The end of a session -/

section

variable {c : Config} {s : Session Loopback} {hosted : Bool} {fs : Files} {env : Environment} {clientId : String}
  {wanted : List Notice.Kind} {directory : Directory Listener} {delays : List (String × Nat)} {code : Int}
  {engine : Loopback}

theorem Steady.of_establish
    (established : establish Loopback.engine hosted fs env c clientId wanted directory (.fresh [] delays code) =
      (.ok s, engine)) : Steady s.engine s.recording := by
  have enrolled := Enrolled.of_establish established
  have order := (Books.of_establish established).order
  have replays := (Replays.of_establish established).2
  have restful := Restful.of_establish rfl established
  refine ⟨order, ⟨enrolled.registered, enrolled.once, fun _ => order, enrolled.empty, enrolled.lost⟩, ?_, replays,
    restful⟩
  obtain ⟨staged, -, rfl⟩ := establish_eq_ok established
  exact ⟨nofun, nofun⟩

theorem Accounts.of_establish
    (established : establish Loopback.engine hosted fs env c clientId wanted directory (.fresh [] delays code) =
      (.ok s, engine)) : Accounts s.engine ⟨clientId, wanted, c.retry.isEnabled⟩ s.recording := by
  obtain ⟨calls, unused⟩ := engine_of_establish established
  have drained : s.engine.Drained none := by
    rw [unused]
    exact .of_candid ⟨⟨rfl, rfl, nofun⟩, nofun, fun _ => ⟨rfl, nofun⟩, .inl rfl, nofun, nofun⟩ nofun
      (fun _ _ => ⟨rfl, rfl⟩) nofun
  have none : s.engine.mailbox = [] := (drained.idle (by rw [unused]; rfl) nofun).1
  obtain ⟨staged, -, rfl⟩ := establish_eq_ok established
  have here := Directory.lookup?_register directory (⟨clientId, wanted, c.retry.isEnabled⟩ : Listener)
  refine ⟨fun _ => here, fun _ => drained, fun out => ?_, fun earlier heard => by simp [recording, withEngine] at heard,
    rfl⟩
  simp [isRegistered, recording, withEngine, Directory.contains, here] at out

/-- A new session has given its engine no command yet. -/
theorem command_notMem_calls
    (established : establish Loopback.engine hosted fs env c clientId wanted directory (.fresh [] delays code) =
      (.ok s, engine)) (cmd : Command) : .command cmd ∉ s.engine.calls := by
  obtain ⟨staged, staging, rfl⟩ := establish_eq_ok established
  have recorded (u : Loopback) (x : Setting) (h : .command cmd ∉ u.calls) : .command cmd ∉ (u.set x).2.calls := by
    intro among
    rcases List.mem_append.mp among with before | last
    · exact h before
    · cases List.mem_singleton.mp last
  exact Config.stage_keeps (P := fun u => .command cmd ∉ Loopback.calls u) recorded staging List.not_mem_nil

/-- What is known of a run of a session that has its engine and its directory to itself. -/
theorem accounts_after
    (established : establish Loopback.engine hosted fs env c clientId wanted directory (.fresh [] delays code) =
      (.ok s, engine)) {ms : List (Move Loopback)} (own : ∀ m ∈ ms, m.Own) :
    let u := s.recording.after Loopback.engine.recorded c (ms.map Move.recorded)
    Steady s.engine u ∧ Accounts s.engine ⟨clientId, wanted, c.retry.isEnabled⟩ u := by
  have listens := (Replays.of_establish established).1
  refine after_induction (P := fun u => Steady s.engine u ∧ Accounts s.engine _ u)
    ⟨.of_establish established, .of_establish established⟩ ?_
  intro t ⟨steady, accounts⟩ m among u made
  obtain ⟨n, given, rfl⟩ := List.mem_map.mp among
  exact ⟨steady.move listens (own n given) made, accounts.move steady listens (own n given) made⟩

theorem Move.own_of_isOnward {m : Move Loopback} (onward : m.isOnward = true) : m.Own := by
  cases m with
  | outside | clearDirectory | crash => cases onward
  | _ => trivial

/-- A session that was let go stays so. -/
theorem tornDown_after {ms : List (Move Loopback)} (own : ∀ m ∈ ms, m.Own) (gone : s.tornDown = true) :
    (s.after Loopback.engine c ms).tornDown = true := by
  refine after_induction (P := fun u => u.tornDown = true) gone ?_
  intro t gone m among u made
  cases m with
  | order o =>
    obtain rfl := Option.some.inj made
    rwa [obey_of_tornDown gone]
  | _ => exact (owner_of_move? (own _ among).sound (fun o => nofun) made).1.trans gone

/-- A session that was let go and comes to the end of its jobs is out of the directory, whatever happened before. -/
theorem unregistered_of_isIdle
    (established : establish Loopback.engine hosted fs env c clientId wanted directory (.fresh [] delays code) =
      (.ok s, engine)) {ms : List (Move Loopback)} (own : ∀ m ∈ ms, m.Own)
    (gone : (s.after Loopback.engine c ms).tornDown = true)
    (idle : (s.after Loopback.engine c ms).queue.isIdle = true) :
    (s.after Loopback.engine c ms).directory.lookup? s.key = none := by
  obtain ⟨plain, -⟩ := recorded_run (c := c) established fun m among => (own m among).calm
  obtain ⟨steady, -⟩ := accounts_after (c := c) established own
  rw [← key_after (e := Loopback.engine) (c := c) s ms]
  rw [← plain] at gone idle ⊢
  generalize s.recording.after Loopback.engine.recorded c (ms.map Move.recorded) = u at *
  have out : u.isRegistered = false := steady.enrolled.unregistered_of_isIdle gone idle
  exact isRegistered_eq_false_iff.mp out

/-- What a session that was let go has left to do gets done, and then it is out of the directory. -/
theorem exists_unregistered
    (established : establish Loopback.engine hosted fs env c clientId wanted directory (.fresh [] delays code) =
      (.ok s, engine)) {ms : List (Move Loopback)} (own : ∀ m ∈ ms, m.Own)
    (gone : (s.after Loopback.engine c ms).tornDown = true) :
    ∃ ns : List (Move Loopback), (∀ n ∈ ns, n.isOnward = true) ∧
      ((s.after Loopback.engine c ms).after Loopback.engine c ns).directory.lookup? s.key = none := by
  have lively := (Lively.of_establish established).after (c := c) fun m among => (own m among).calm
  obtain ⟨ns, onward, idle⟩ := exists_idle (c := c) lively
  have own' : ∀ n ∈ ns, n.Own := fun n among => Move.own_of_isOnward (onward n among)
  have stays := tornDown_after (c := c) own' gone
  refine ⟨ns, onward, ?_⟩
  rw [← after_append] at idle stays ⊢
  exact unregistered_of_isIdle established (List.forall_mem_append.mpr ⟨own, own'⟩) stays idle

/-- Over a loopback engine that refuses nothing, a session that is let go, at any point of any run in which nobody else
touches its engine or its directory, is taken out of the directory: its worker and its loop have only to go on, and when
nothing happens by itself any more it has come to that. By then its engine has carried out all the commands of its jobs,
the last and only one of them to let it go. Whoever had a connection in the course of them has been sent an event about
its end, and the application has been told, in order and once, what it wants to be told of all the events that the
commands have made the engine emit, none of them malformed. The session is disconnected then; and whatever happens
later, it stays so, it is not found in the directory, and no event is told or moves it. -/
theorem farewell_of_letGo
    (established : establish Loopback.engine hosted fs env c clientId wanted directory (.fresh [] delays code) =
      (.ok s, engine)) (ms : List (Move Loopback)) (own : ∀ m ∈ ms, m.Own)
    (gone : (s.after Loopback.engine c ms).tornDown = true) :
    let t := s.after Loopback.engine c ms
    let said := (script c s.engine (issued ms)).flatMap fun d => d.1.task.block d.2
    let emitted := (s.engine.played said).events
    (∃ ns : List (Move Loopback), (∀ n ∈ ns, n.isOnward = true) ∧
        (t.after Loopback.engine c ns).directory.lookup? s.key = none) ∧
      (t.Quiet → t.directory.lookup? s.key = none) ∧
      (t.directory.lookup? s.key = none →
        t.engine.calls = s.engine.calls ++ said.map .command ∧ t.engine.calls.count (.command .destroy) = 1 ∧
          (∃ before, said = before ++ [.destroy] ∧ .destroy ∉ before ∧
            ∀ early late, before = early ++ late → (s.engine.played early).connected = true →
              ∃ sent, emitted = (s.engine.played early).events ++ sent ∧ .disconnect 0 ∈ sent) ∧
          (∀ event ∈ emitted, event.notice? ≠ none) ∧
          t.told = emitted.filterMap (Listener.tell? ⟨clientId, wanted, c.retry.isEnabled⟩) ∧
          t.queue.isIdle = true ∧ t.standing = ⟨.disconnected, false⟩ ∧
          ∀ ns : List (Move Loopback),
            let u := t.after Loopback.engine c ns
            u.directory.lookup? s.key = none ∧ u.standing = t.standing ∧ u.told = t.told ∧
              ∀ event, u.hear event = u) := by
  intro t said emitted
  obtain ⟨plain, lively, replays, done, books⟩ := recorded_run (c := c) established fun m among => (own m among).calm
  obtain ⟨steady, accounts⟩ := accounts_after (c := c) established own
  have key : t.key = s.key := key_after (e := Loopback.engine) (c := c) s ms
  refine ⟨exists_unregistered established own gone, fun quiet => ?_, fun out => ?_⟩
  · exact unregistered_of_isIdle established own gone (Lively.isIdle_of_quiet (plain ▸ lively) quiet)
  · obtain ⟨calls, unused⟩ := engine_of_establish established
    have willing : s.engine.Willing := by
      rw [unused]
      exact ⟨rfl, rfl, nofun⟩
    have unsent : s.engine.events = [] ∧ s.engine.connected = false := by
      rw [unused]
      exact ⟨rfl, rfl⟩
    rw [← key] at out ⊢
    rw [show t = _ from plain.symm] at out ⊢
    -- From here on the run matters only through what it has kept.
    generalize s.recording.after Loopback.engine.recorded c (ms.map Move.recorded) = u at *
    have unregistered : u.isRegistered = false := isRegistered_eq_false_iff.mpr out
    obtain ⟨departed, standing⟩ := steady.departed unregistered
    -- A session that is out of the directory has nothing left to do, so its engine has heard the whole script.
    have heard : u.engine.heard = said := ((books.script steady.replays).2.2 departed.idle).1
    have told := accounts.told_eq steady unregistered
    rw [heard] at told
    obtain ⟨parted, readable⟩ := parted_of_cut (c := c) willing
      (fun there => absurd (unsent.2.symm.trans there) (by decide)) unsent.1
      (books.tornDown.symm.trans departed.gone) (issued_pairwise ms)
      fun before ends => accounts.cut before (heard.trans ends)
    have called : u.plain.engine.calls = s.engine.calls ++ said.map .command := by
      rw [← heard]
      exact replays.calls
    refine ⟨called, ?_, parted, readable, told, departed.idle, standing, fun ns => ?_⟩
    · obtain ⟨before, ends, once, -⟩ := parted
      replace ends : said = before ++ [.destroy] := ends
      have earlier : Loopback.Call.command .destroy ∉ s.engine.calls ++ before.map .command := by
        simpa [once] using command_notMem_calls established .destroy
      rw [called, ends, List.map_append, ← List.append_assoc, List.count_append, List.count_eq_zero.mpr earlier]
      rfl
    · obtain ⟨stays, same, unheard⟩ := departed.after (e := Loopback.engine) (c := c) ns
      have out' := stays.out
      rw [key_after] at out'
      exact ⟨out', same, unheard, hear_of_unregistered stays.out⟩

/-- A session that is let go while its requests wait, and that was told of nothing but its connection, is out of the
directory when it has told the rest, the end of its connection last. -/
theorem farewell_of_letGo_early :
    let c := Config.ofEndpoint "sensor" "broker" 1883 60
    let ms : List (Move Loopback) :=
      [.order (.request .connectConfigured), .work, .work, .work, .deliver,
        .order (.request (.subscribe ["a/+"] .atLeastOnce)),
        .order (.request (.publish "a/b" "on".toUTF8 .atLeastOnce false)), .order .letGo, .close] ++
      List.replicate 8 .work ++ List.replicate 8 .deliver ++ List.replicate 4 .work
    ∃ s engine,
      establish Loopback.engine true .empty [] c "sensor" Notice.Kind.all .empty (.fresh [] [] 0) = (.ok s, engine) ∧
      (s.after Loopback.engine c ms).tornDown = true ∧
      (s.after Loopback.engine c ms).directory.lookup? s.key = none ∧
      (s.after Loopback.engine c ms).told =
        [.connected .success, .subscribed 1 [1], .published 2,
          .message ⟨2, "a/b", "on".toUTF8, .atLeastOnce, false⟩, .disconnected .requested] ∧
      (s.after Loopback.engine c ms).engine.calls = s.engine.calls ++
        ([.connect "broker" 1883 60, .startLoop, .subscribe ["a/+"] .atLeastOnce,
          .publish "a/b" "on".toUTF8 .atLeastOnce false, .disconnect, .stopLoop, .destroy] : List Command).map
            .command ∧
      ∀ ns, ((s.after Loopback.engine c ms).after Loopback.engine c ns).told = (s.after Loopback.engine c ms).told := by
  refine ⟨_, _, rfl, by decide +kernel, by decide +kernel, by decide +kernel, by decide +kernel, ?_⟩
  obtain ⟨-, -, finished⟩ := farewell_of_letGo (show establish Loopback.engine true .empty []
      (.ofEndpoint "sensor" "broker" 1883 60) "sensor" Notice.Kind.all .empty (.fresh [] [] 0) = (.ok _, _) from rfl)
    ([.order (.request .connectConfigured), .work, .work, .work, .deliver,
        .order (.request (.subscribe ["a/+"] .atLeastOnce)),
        .order (.request (.publish "a/b" "on".toUTF8 .atLeastOnce false)), .order .letGo, .close] ++
      List.replicate 8 .work ++ List.replicate 8 .deliver ++ List.replicate 4 .work)
    (by simp [Move.Own]) (by decide +kernel)
  obtain ⟨-, -, -, -, -, -, -, later⟩ := finished (by decide +kernel)
  exact fun ns => (later ns).2.2.1

end

end Session

end BrokerSession
