import BrokerSession.Proofs.Histories
import BrokerSession.Proofs.Session.Callers
import BrokerSession.Proofs.Session.Orderly
import Mathlib.Data.List.Basic
import Mathlib.Data.List.Induction

/-!
# What the accesses of callers come to

The log of a crowd is right about its session. Whether the session is meant to run was written by the last access
that concerns it, and a disconnect goes on only if it found the session running; so between two of those somebody
has asked for a connection. The engine hears the commands that steer the connection in the order in which the
callers handed them in, and this is another order than the one in which they wrote the flag.

## Main definitions

* `Session.flagged`, `Session.requested` - whether a session is meant to run after some accesses, and the commands
  that they handed in
* `Session.Truthful` - every disconnect has learned what the last access before left
* `Caller.Path` - the accesses of a call that has come so far
* `Crowd.Flagged`, `Crowd.Traced`, `Crowd.Accounted` - the log is right about the flag, about each of the callers,
  and about the commands

## Main results

* `Truthful.setRunning_between` - between two disconnects that go on somebody asks for a connection
* `Flagged.step`, `Traced.step`, `Accounted.step` - every step keeps the log right
-/

namespace BrokerSession

/-- Whether a command steers the connection. -/
def Command.steers : Command → Bool
  | connect .. => true
  | reconnect => true
  | disconnect => true
  | _ => false

/-- A task that opens with a command steers the connection if the command does, and by it. -/
theorem Task.steering?_of_opening {task : Task} {cmd : Command} (opens : task.opening = .command cmd) :
    task.steering?.toList = [cmd].filter Command.steers := by
  cases task <;> simp only [opening] at opens <;> grind [steering?, Command.steers]

theorem Task.steering?_of_dismissal? {task : Task} {r : Reply}
    (dismissed : task.opening.dismissal? = some r) : task.steering? = none := by
  cases task <;> first | rfl | cases dismissed

/-- What the engine hears after an answer concerns its loop. -/
theorem Exchange.sequel_say {x : Exchange} {r : Reply} {cmd : Command} {earlier : Option Status}
    (follows : x.sequel r = .say cmd earlier) :
    cmd = .startLoop ∧ x.command ≠ .disconnect ∨
      cmd = .stopLoop ∧ x.command = .disconnect ∧ earlier = some r.status := by
  unfold sequel at follows
  split at follows <;> grind

namespace Session

variable {σ : Type} {e : Engine σ} {c : Config}

/-! ## What the log says about the session -/

/-- Whether a session is meant to run after an access. -/
def Access.runs (running : Bool) : Access → Bool
  | setRunning => true
  | swapRunning _ => false
  | _ => running

/-- Whether a session is meant to run after some accesses. -/
def flagged (log : List (Nat × Access)) : Bool :=
  log.foldl (fun running entry => entry.2.runs running) false

/-- Whether everybody who wanted to know has learned what the last access before left. -/
def Truthful (log : List (Nat × Access)) : Prop :=
  ∀ before i was after, log = before ++ (i, .swapRunning was) :: after → was = flagged before

@[simp] theorem flagged_concat (log : List (Nat × Access)) (entry : Nat × Access) :
    flagged (log ++ [entry]) = entry.2.runs (flagged log) := by
  simp [flagged]

/-- As long as nobody asks for a connection, a session that is meant to rest goes on resting. -/
theorem foldl_runs_eq_false {log : List (Nat × Access)} (quiet : ∀ k, (k, .setRunning) ∉ log) :
    log.foldl (fun running entry => entry.2.runs running) false = false := by
  induction log with
  | nil => rfl
  | cons entry log ih =>
    have first : entry.2.runs false = false := by
      obtain ⟨k, access⟩ := entry
      cases access with
      | setRunning => exact absurd List.mem_cons_self (quiet k)
      | _ => rfl
    rw [List.foldl_cons, first]
    apply ih
    intro k among
    exact quiet k (List.mem_cons_of_mem _ among)

namespace Truthful

variable {log : List (Nat × Access)}

theorem concat {entry : Nat × Access} (h : Truthful log)
    (learned : ∀ was, entry.2 = .swapRunning was → was = flagged log) : Truthful (log ++ [entry]) := by
  intro before i was after split
  -- Either the new access is the one in question, or it comes behind it.
  obtain ⟨rfl, rfl, -⟩ | ⟨rest, -, split⟩ := concat_eq_append_cons_iff.mp split
  · exact learned was rfl
  · exact h before i was rest split

theorem of_append {more : List (Nat × Access)} (h : Truthful (log ++ more)) : Truthful log := by
  intro before i was after split
  refine h before i was (after ++ more) ?_
  rw [split, List.append_assoc, List.cons_append]

/-- Between two disconnects that go on somebody asks for a connection. -/
theorem setRunning_between {before between after : List (Nat × Access)} {i j : Nat} (h : Truthful log)
    (split : log = before ++ (i, .swapRunning true) :: (between ++ (j, .swapRunning true) :: after)) :
    ∃ k, (k, .setRunning) ∈ between := by
  by_contra nobody
  -- The second one would find that the session is meant to rest, as the first one left it.
  have rests : flagged (before ++ (i, .swapRunning true) :: between) = false := by
    rw [flagged, List.foldl_append, List.foldl_cons]
    exact foldl_runs_eq_false (not_exists.mp nobody)
  have found : true = flagged (before ++ (i, .swapRunning true) :: between) := by
    apply h _ j true after
    rw [split, List.append_assoc, List.cons_append]
  rw [rests] at found
  cases found

/-- Every disconnect that goes on has used up a request for a connection, and what is left of them keeps the
session running. -/
theorem count_le (h : Truthful log) :
    (log.map Prod.snd).count (.swapRunning true) + (flagged log).toNat ≤
      (log.map Prod.snd).count .setRunning := by
  induction log using List.reverseRecOn with
  | nil => exact Nat.le_refl _
  | append_singleton log entry ih =>
    have before := ih h.of_append
    obtain ⟨i, access⟩ := entry
    rw [flagged_concat, List.map_append, List.count_append, List.count_append]
    cases access with
    | setRunning => cases flagged log <;> simp [Access.runs] at before ⊢ <;> omega
    | swapRunning was =>
      -- A disconnect goes on exactly if a request is left, and then it uses it up.
      obtain rfl : was = flagged log := h log i was [] rfl
      cases running : flagged log <;> simp [Access.runs, running] at before ⊢ <;> omega
    | setPhase phase | enqueue task => simpa [Access.runs] using before

end Truthful

namespace Caller

variable {s t : Session σ} {k : Caller} {access : Access} {stage : Stage}

theorem Step.running (step : k.Step s access stage t) :
    t.standing.running = access.runs s.standing.running := by
  cases step with
  | skip rests => exact rests
  | submit asked => exact congrArg Standing.running asked.standing.1
  | _ => rfl

theorem Step.learned {was : Bool} (step : k.Step s (.swapRunning was) stage t) :
    was = s.standing.running := by
  cases step with
  | swap runs => exact runs.symm
  | skip rests => exact rests.symm

end Caller

namespace Crowd

variable {w v : Crowd σ}

/-- Nobody but the callers writes the log or says whether the session is meant to run. -/
theorem Step.bystander {m : Session.Move σ} (step : w.Step e c (.session m) v) :
    v.log = w.log ∧ v.callers = w.callers ∧
      v.session.standing.running = w.session.standing.running := by
  cases step with
  | ask apart asked => exact ⟨rfl, rfl, congrArg Standing.running asked.standing.1⟩
  | work step => exact ⟨rfl, rfl, step.running⟩
  | crash => exact ⟨rfl, rfl, by rw [crash_frame]⟩
  | aside => exact ⟨rfl, rfl, rfl⟩

/-- A call that is over makes no more accesses. -/
theorem Step.returned {m : Move σ} (step : w.Step e c m v) {j : Nat} {steer : Steer} {ticket : Ticket}
    (ended : w.callers[j]? = some ⟨steer, .returned ticket⟩) :
    v.callers[j]? = some ⟨steer, .returned ticket⟩ := by
  cases m with
  | session m => exact step.bystander.2.1 ▸ ended
  | access i =>
    cases step with
    | access calling step =>
      have other : i ≠ j := by
        rintro rfl
        obtain rfl := Option.some.inj (calling.symm.trans ended)
        cases step
      exact (List.getElem?_set_ne other).trans ended

/-- Whether the log is right about the session. -/
structure Flagged (w : Crowd σ) : Prop where
  running : w.session.standing.running = flagged w.log
  truthful : Truthful w.log

theorem Flagged.step {m : Move σ} (h : w.Flagged) (step : w.Step e c m v) : v.Flagged := by
  cases m with
  | session m =>
    obtain ⟨log, -, running⟩ := step.bystander
    exact ⟨by rw [running, log, h.running], log ▸ h.truthful⟩
  | access i =>
    cases step with
    | @access _ k access stage t calling step =>
      refine ⟨?_, h.truthful.concat fun was learns => ?_⟩
      · rw [flagged_concat, ← h.running]
        exact step.running
      · obtain rfl : access = .swapRunning was := learns
        rw [← h.running]
        exact step.learned

end Crowd

/-! ## What the log says about a caller -/

/-- The access with which a call that goes on begins. -/
def Steer.claim : Steer → Access
  | disconnect => .swapRunning true
  | _ => .setRunning

/-- The accesses of a caller. -/
def accessesOf (log : List (Nat × Access)) (i : Nat) : List Access :=
  (log.filter (·.1 == i)).map Prod.snd

theorem mem_accessesOf {log : List (Nat × Access)} {i : Nat} {access : Access} :
    access ∈ accessesOf log i ↔ (i, access) ∈ log := by
  simp [accessesOf]

theorem accessesOf_concat (log : List (Nat × Access)) (i j : Nat) (access : Access) :
    accessesOf (log ++ [(i, access)]) j =
      if i = j then accessesOf log j ++ [access] else accessesOf log j := by
  by_cases same : i = j <;> simp [accessesOf, same]

namespace Caller

variable {s t : Session σ} {k : Caller} {access : Access} {stage : Stage} {as : List Access}

/-- Whether these are the accesses of a call that has come so far. -/
def Path (k : Caller) (as : List Access) : Prop :=
  match k.stage with
  | .entered => as = []
  | .claimed => as = [k.steer.claim]
  | .moved => as = [k.steer.claim, .setPhase k.steer.phase]
  | .returned _ =>
    as = [k.steer.claim, .setPhase k.steer.phase, .enqueue k.steer.task] ∨
      k.steer = .disconnect ∧ as = [.swapRunning false]

theorem Path.step (path : k.Path as) (step : k.Step s access stage t) :
    Path ⟨k.steer, stage⟩ (as ++ [access]) := by
  cases step with
  | @claim steer asks =>
    obtain rfl : as = [] := path
    cases steer with
    | disconnect => cases asks
    | _ => rfl
  | swap runs =>
    obtain rfl : as = [] := path
    rfl
  | skip rests =>
    obtain rfl : as = [] := path
    exact .inr ⟨rfl, rfl⟩
  | move =>
    obtain rfl := path
    rfl
  | submit asked =>
    obtain rfl := path
    exact .inl rfl

/-- The accesses that a call can make. -/
theorem Path.mem (path : k.Path as) (made : access ∈ as) :
    access = .swapRunning false ∨ k.steer.claim ∈ as ∧
      (access = k.steer.claim ∨ access = .setPhase k.steer.phase ∨ access = .enqueue k.steer.task) := by
  obtain ⟨steer, stage⟩ := k
  cases stage with
  | entered =>
    obtain rfl : as = [] := path
    cases made
  | claimed =>
    obtain rfl : as = [steer.claim] := path
    exact .inr ⟨List.mem_singleton_self _, .inl (List.mem_singleton.mp made)⟩
  | moved =>
    obtain rfl : as = [steer.claim, .setPhase steer.phase] := path
    refine .inr ⟨List.mem_cons_self, ?_⟩
    rcases List.mem_pair.mp made with first | second
    · exact .inl first
    · exact .inr (.inl second)
  | returned ticket =>
    rcases path with rfl | ⟨-, rfl⟩
    · exact .inr ⟨List.mem_cons_self, by simpa using made⟩
    · exact .inl (List.mem_singleton.mp made)

end Caller

namespace Crowd

variable {w v : Crowd σ} {steers : List Steer}

/-- Whether the log is right about each of the callers. -/
structure Traced (steers : List Steer) (w : Crowd σ) : Prop where
  steers : w.callers.map (·.steer) = steers
  path : ∀ i (k : Caller), w.callers[i]? = some k → k.Path (accessesOf w.log i)
  named : ∀ entry ∈ w.log, entry.1 < w.callers.length

theorem Traced.step {m : Move σ} (h : w.Traced steers) (step : w.Step e c m v) : v.Traced steers := by
  cases m with
  | session m =>
    obtain ⟨log, callers, -⟩ := step.bystander
    exact ⟨callers ▸ h.steers, callers ▸ log ▸ h.path, callers ▸ log ▸ h.named⟩
  | access i =>
    cases step with
    | @access _ k access stage t calling step =>
      obtain ⟨inside, at_⟩ := List.getElem?_eq_some_iff.mp calling
      refine ⟨?_, fun j l calls => ?_, fun entry among => ?_⟩
      · -- The caller stays who it was.
        rw [List.map_set, ← h.steers]
        refine List.ext_getElem? fun j => ?_
        by_cases same : i = j
        · subst same
          simp [inside, at_]
        · simp [same]
      · -- Only the caller that made the access has one more.
        rw [accessesOf_concat]
        by_cases same : i = j
        · subst same
          rw [List.getElem?_set_self inside] at calls
          obtain rfl := Option.some.inj calls
          rw [if_pos rfl]
          exact (h.path i k calling).step step
        · rw [List.getElem?_set_ne same] at calls
          rw [if_neg same]
          exact h.path j l calls
      · rw [List.length_set]
        rcases List.mem_append.mp among with old | new
        · exact h.named entry old
        · rwa [List.mem_singleton.mp new]

theorem Traced.length_callers (h : w.Traced steers) : w.callers.length = steers.length := by
  rw [← h.steers, List.length_map]

/-- A caller is who it was. -/
theorem Traced.steer_of_getElem? {i : Nat} {k : Caller} (h : w.Traced steers)
    (calls : w.callers[i]? = some k) : steers[i]? = some k.steer := by
  rw [← h.steers, List.getElem?_map, calls]
  rfl

/-- The accesses that stand in the log. -/
theorem Traced.mem {i : Nat} {access : Access} (h : w.Traced steers) (among : (i, access) ∈ w.log) :
    ∃ steer, steers[i]? = some steer ∧
      (access = .swapRunning false ∨ (i, steer.claim) ∈ w.log ∧
        (access = steer.claim ∨ access = .setPhase steer.phase ∨ access = .enqueue steer.task)) := by
  have inside : i < w.callers.length := h.named _ among
  have calls : w.callers[i]? = some w.callers[i] := List.getElem?_eq_getElem inside
  refine ⟨w.callers[i].steer, h.steer_of_getElem? calls, ?_⟩
  rw [← mem_accessesOf]
  exact (h.path i _ calls).mem (mem_accessesOf.mpr among)

theorem traced_crowd (s : Session σ) (steers : List Steer) : (s.crowd steers).Traced steers := by
  refine ⟨by simp [crowd, Function.comp_def], fun i k calls => ?_, fun entry among => nomatch among⟩
  obtain ⟨steer, -, rfl⟩ := List.mem_map.mp (List.mem_of_getElem? calls)
  rfl

theorem flagged_crowd {s : Session σ} (rests : s.standing.running = false) (steers : List Steer) :
    (s.crowd steers).Flagged :=
  ⟨rests, fun before i was after split => by cases before <;> cases split⟩

end Crowd

/-! ## What the log says about the commands -/

/-- The command with which an access steers the connection, if it hands one in. -/
def Access.steering? : Access → Option Command
  | enqueue task => task.steering?
  | _ => none

/-- The commands that accesses have handed in, the earliest first. -/
def requested (log : List (Nat × Access)) : List Command := log.filterMap (·.2.steering?)

@[simp] theorem requested_concat (log : List (Nat × Access)) (entry : Nat × Access) :
    requested (log ++ [entry]) = requested log ++ entry.2.steering?.toList := by
  cases named : entry.2.steering? <;> simp [requested, named]

/-- The commands that steer the connection: those that the engine has heard, and those that wait. -/
def steering (s : Session (Recorded σ)) : List Command :=
  s.engine.heard.filter Command.steers ++ s.queue.backlog.filterMap (·.task.steering?)

/-- A step of the worker keeps the commands in their order, and takes none from those that wait but to say it. -/
theorem WorkerStep.steering {s t : Session (Recorded σ)} (step : WorkerStep e.recorded s t) :
    t.steering = s.steering := by
  cases step with
  | @dismiss job rest reply free alive waits dismissed =>
    have apart := Task.steering?_of_dismissal? dismissed
    simp [Session.steering, complete, resolve, WorkQueue.finish, waits, apart]
  | @begin job rest cmd free alive waits opens =>
    -- The command moves from the head of the queue to the end of what was heard.
    have named := Task.steering?_of_opening opens
    have first : (job :: rest).filterMap (·.task.steering?) =
        [cmd].filter Command.steers ++ rest.filterMap (·.task.steering?) := by
      rw [← named, List.filterMap_cons]
      cases job.task.steering? <;> rfl
    simp only [Session.steering, say, Engine.recorded, waits, List.filter_append, first,
      List.append_assoc]
  | retire free alive empty closed => rfl
  | @goOn x r engine cmd earlier busy answered follows =>
    obtain ⟨inner, -, rfl⟩ := Engine.finish_of_recorded answered
    have apart : cmd.steers = false := by
      rcases Exchange.sequel_say follows with ⟨rfl, -⟩ | ⟨rfl, -⟩ <;> rfl
    simp [Session.steering, say, heed, Engine.recorded, apart]
  | @finish x r engine reply busy answered follows =>
    obtain ⟨inner, -, rfl⟩ := Engine.finish_of_recorded answered
    simp [Session.steering, complete, resolve, heed, WorkQueue.finish]

/-- A queue that is not closed keeps its worker. -/
theorem WorkerStep.worker {s t : Session σ} (step : WorkerStep e s t)
    (accepting : s.queue.accepting = true) :
    t.queue.accepting = true ∧ t.queue.worker = s.queue.worker := by
  cases step with
  | retire free alive empty closed =>
    rw [accepting] at closed
    cases closed
  | _ => exact ⟨accepting, rfl⟩

/-- A worker waits for an answer exactly when it has a job. -/
theorem WorkerStep.working {s t : Session σ} (step : WorkerStep e s t)
    (working : s.queue.active = s.exchange.map (·.job)) : t.queue.active = t.exchange.map (·.job) := by
  cases step with
  | goOn busy answered follows =>
    rw [busy] at working
    exact working
  | retire free alive empty closed => exact working
  | _ => rfl

/-- Only what the worker does is recorded. -/
theorem record_of_aside {s t : Session (Recorded σ)} {m : Move σ} (aside : m.recorded.isAside = true)
    (made : s.move? e.recorded c m.recorded = some t) :
    t.engine.heard = s.engine.heard ∧ t.engine.answered = s.engine.answered := by
  cases m with
  | deliver =>
    obtain ⟨reports, engine, phase, journal, delivered, rfl⟩ := loopStep?_frame made
    obtain ⟨inner, -, rfl⟩ := Engine.deliver_of_recorded delivered
    exact ⟨rfl, rfl⟩
  | close =>
    obtain ⟨-, rfl⟩ := eq_of_close made
    exact ⟨rfl, rfl⟩
  | pass millis | outside f | clearDirectory =>
    obtain rfl := Option.some.inj made
    exact ⟨rfl, rfl⟩
  | order o | work | crash => cases aside

namespace Crowd

variable {w v : Crowd (Recorded σ)}

/-- Whether the log is right about the commands. None of them is lost unless the worker crashes. -/
structure Accounted (w : Crowd (Recorded σ)) : Prop where
  accepting : w.session.queue.accepting = true
  lasting : w.session.queue.worker ≠ .ended
  working : w.session.queue.active = w.session.exchange.map (·.job)
  handed : w.session.steering.Sublist (requested w.log)
  whole : w.session.queue.worker = .alive → w.session.steering = requested w.log

namespace Accounted

theorem isClosed (h : w.Accounted) :
    w.session.queue.isClosed = false ↔ w.session.queue.worker = .alive := by
  simp [WorkQueue.isClosed, h.accepting]

theorem free_of_idle (h : w.Accounted) (idle : w.session.queue.isIdle = true) :
    w.session.exchange = none :=
  exchange_eq_none_of_idle h.working idle

/-- When nothing is left to do, the engine has heard every command that was handed in. -/
theorem heard_of_idle (h : w.Accounted) (idle : w.session.queue.isIdle = true)
    (alive : w.session.queue.worker = .alive) :
    w.session.engine.heard.filter Command.steers = requested w.log := by
  have backlog : w.session.queue.backlog = [] := ((WorkQueue.isIdle_iff _).mp idle).1
  rw [← h.whole alive, steering, backlog, List.filterMap_nil, List.append_nil]

/-- Nothing but what the worker has to do concerns the commands. -/
theorem congr {t : Session (Recorded σ)} {callers : List Caller} {log : List (Nat × Access)}
    (h : w.Accounted) (queue : t.queue = w.session.queue) (exchange : t.exchange = w.session.exchange)
    (heard : t.engine.heard = w.session.engine.heard) (told : requested log = requested w.log) :
    Accounted ⟨t, callers, log⟩ := by
  have kept : t.steering = w.session.steering := by rw [steering, heard, queue, steering]
  refine ⟨queue ▸ h.accepting, queue ▸ h.lasting, ?_, ?_, fun alive => ?_⟩
  · rw [queue, exchange]
    exact h.working
  · rw [kept, told]
    exact h.handed
  · rw [kept, told]
    exact h.whole (queue ▸ alive)

/-- A task that is handed in is the last one, or it is refused because the worker has crashed. -/
theorem asked {log : List (Nat × Access)} {task : Task} {t : Session (Recorded σ)} {callers : List Caller}
    (h : w.Accounted) (asked : w.session.Asked task t)
    (told : requested log = requested w.log ++ task.steering?.toList) :
    Accounted ⟨t, callers, log⟩ := by
  cases asked with
  | taken taking =>
    have whole := h.whole (h.isClosed.mp taking)
    have more : Session.steering { w.session with
        queue := { w.session.queue with
          backlog := w.session.queue.backlog ++ [⟨some w.session.nextTicket, task⟩] }
        nextTicket := w.session.nextTicket + 1 } = requested log := by
      rw [told, ← whole]
      cases named : task.steering? <;> simp [Session.steering, named]
    exact ⟨h.accepting, h.lasting, h.working, more ▸ List.Sublist.refl _, fun _ => more⟩
  | refused closed journal =>
    -- The queue is closed only after a crash.
    refine ⟨h.accepting, h.lasting, h.working, ?_, fun alive => ?_⟩
    · exact h.handed.trans (told ▸ List.sublist_append_left ..)
    · rw [h.isClosed.mpr alive] at closed
      cases closed

theorem step {m : Move σ} (h : w.Accounted) (step : w.Step e.recorded c m.recorded v) :
    v.Accounted := by
  generalize same : m.recorded = m' at step
  cases step with
  | @access i k access stage t calling step =>
    cases step with
    | submit asked => exact h.asked asked (requested_concat ..)
    | _ => exact h.congr rfl rfl rfl (by simp [Access.steering?])
  | ask apart asked => exact h.asked asked (by simp [apart])
  | work step =>
    have kept := step.steering
    obtain ⟨accepting, worker⟩ := step.worker h.accepting
    exact ⟨accepting, worker ▸ h.lasting, step.working h.working, kept.symm ▸ h.handed,
      fun alive => kept.trans (h.whole (worker ▸ alive))⟩
  | crash =>
    -- What the engine has heard stays, and what waited is lost.
    have lost : (w.session.crash e.recorded).steering.Sublist w.session.steering := by
      simp [Session.steering, crash_frame, WorkQueue.crash, Engine.recorded]
    rw [crash_frame] at lost ⊢
    exact ⟨h.accepting, nofun, rfl, lost.trans h.handed, nofun⟩
  | aside aside made =>
    obtain ⟨n, -, rfl⟩ := Move.exists_of_recorded same
    exact h.congr rfl rfl (record_of_aside aside made).1 rfl

end Accounted

/-- Nothing but a crash ends a worker that may still get jobs. -/
theorem Step.worker {m : Move (Recorded σ)} (step : w.Step e.recorded c m v) (h : w.Accounted)
    (sound : m ≠ .session .crash) : v.session.queue.worker = w.session.queue.worker := by
  cases step with
  | access calling step =>
    cases step with
    | submit asked => cases asked <;> rfl
    | _ => rfl
  | ask apart asked => cases asked <;> rfl
  | work step => exact (step.worker h.accepting).2
  | crash => exact absurd rfl sound
  | aside => rfl

/-! ## Runs -/

/-- Whether the log of a crowd is right about everything. -/
structure Logged (steers : List Steer) (w : Crowd (Recorded σ)) : Prop where
  flagged : w.Flagged
  traced : w.Traced steers
  accounted : w.Accounted

theorem Logged.step {steers : List Steer} {m : Move σ} (h : w.Logged steers)
    (step : w.Step e.recorded c m.recorded v) : v.Logged steers :=
  ⟨h.flagged.step step, h.traced.step step, h.accounted.step step⟩

theorem logged_of_establish {hosted : Bool} {fs : Files} {env : Environment} {clientId : String}
    {wanted : List Notice.Kind} {directory : Directory Listener} {engine engine' : σ}
    {s : Session σ}
    (established : establish e hosted fs env c clientId wanted directory engine = (.ok s, engine'))
    (steers : List Steer) :
    (s.recording.crowd steers).Logged steers ∧ s.queue.worker = .alive ∧ s.tornDown = false := by
  obtain ⟨staged, -, rfl⟩ := establish_eq_ok established
  refine ⟨⟨flagged_crowd rfl steers, traced_crowd _ steers, ?_⟩, rfl, rfl⟩
  exact ⟨rfl, nofun, rfl, List.Sublist.refl _, fun _ => rfl⟩

/-- In every run of a crowd that steers its session alone the log is right, and the worker lives unless it
crashes. -/
theorem logged_after {hosted : Bool} {fs : Files} {env : Environment} {clientId : String}
    {wanted : List Notice.Kind} {directory : Directory Listener} {engine engine' : σ}
    {s : Session σ}
    (established : establish e hosted fs env c clientId wanted directory engine = (.ok s, engine'))
    (steers : List Steer) {ms : List (Move σ)} (undirected : Undirected ms) :
    let w := (s.recording.crowd steers).after e.recorded c (ms.map Move.recorded)
    w.Logged steers ∧ (.session .crash ∉ ms → w.session.queue.worker = .alive) := by
  intro w
  obtain ⟨logged, alive, present⟩ := logged_of_establish established steers
  refine recorded_induction (w := s.recording.crowd steers)
    (P := fun w => w.Logged steers ∧ (.session .crash ∉ ms → w.session.queue.worker = .alive))
    ⟨logged, fun _ => alive⟩ present undirected ?_
  · intro w v m among ⟨h, alive⟩ step
    refine ⟨h.step step, fun sound => ?_⟩
    rw [step.worker h.accounted, alive sound]
    intro crash
    exact sound (Move.eq_crash_of_recorded crash ▸ among)

end Crowd

end Session

end BrokerSession
