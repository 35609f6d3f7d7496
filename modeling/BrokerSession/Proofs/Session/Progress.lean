import BrokerSession.Proofs.Loopback.Deliveries
import BrokerSession.Proofs.Session.Schedules

/-!
# A session does what it was asked for

What a session over the loopback engine has left to do shrinks with every step of its worker and of its loop, until the
worker has nothing to do any more. A step that has to wait for a timer, or for the loop, waits for something that comes.
So whatever has happened before, a session that is left alone comes to the end of its jobs.

## Main definitions

* `Session.Move.isOnward` - whether a move only lets a session go on
* `Session.effort` - how much a session has left to do

## Main results

* `effort_of_workerStep`, `effort_of_loopStep?` - every step leaves less to do
* `exists_idle` - a session that is left alone comes to the end of its jobs
-/

namespace BrokerSession

namespace Loopback

variable {s t : Loopback} {cmd : Command} {r : Reply}

theorem length_mailbox_emit (s : Loopback) (event : EngineEvent) :
    (s.emit event).mailbox.length ≤ s.mailbox.length + 1 := by
  unfold emit send
  split <;> simp

/-- A command that is carried out brings at most two events into the mailbox. -/
theorem length_mailbox_perform (s : Loopback) (cmd : Command) :
    (s.perform cmd).2.mailbox.length ≤ s.mailbox.length + 2 := by
  have one (u : Loopback) (event : EngineEvent) (same : u.mailbox = s.mailbox) :
      (u.emit event).mailbox.length ≤ s.mailbox.length + 2 := by
    have := length_mailbox_emit u event
    rw [same] at this
    omega
  have connected (act : Reply × Loopback) (few : act.2.mailbox.length ≤ s.mailbox.length + 2) :
      (s.whenConnected act).2.mailbox.length ≤ s.mailbox.length + 2 := by
    unfold whenConnected
    split
    · exact few
    · exact Nat.le_add_right ..
  cases cmd with
  | connect host port keepAlive => exact one _ _ rfl
  | reconnect =>
    simp only [perform]
    split
    · exact one _ _ rfl
    · exact Nat.le_add_right ..
  | disconnect => exact connected _ (one _ _ rfl)
  | publish topic payload qos retain =>
    refine connected _ ?_
    unfold publish
    dsimp only
    split
    · refine Nat.le_trans (length_mailbox_emit _ _) (Nat.succ_le_succ ?_)
      exact length_mailbox_emit _ _
    · exact one _ _ rfl
  | subscribe filters qos => exact connected _ (one _ _ rfl)
  | unsubscribe filter => exact connected _ (one _ _ rfl)
  | startLoop =>
    simp only [perform, startLoop]
    split
    · exact Nat.le_add_right ..
    · exact Nat.le_add_right ..
    · exact Nat.le_add_right ..
    · split
      · exact Nat.le_add_right ..
      · exact Nat.zero_le _
  | stopLoop | destroy => exact Nat.le_add_right ..

theorem length_mailbox_finish (answered : s.finish cmd = some (r, t)) : t.mailbox.length ≤ s.mailbox.length + 2 := by
  rcases finish_eq_some answered with ⟨_, _, -, -, rfl⟩ | ⟨-, -, performed⟩ | ⟨-, -, u, collected, performed⟩
  · exact Nat.le_add_right ..
  · rw [show t = (s.perform cmd).2 from congrArg Prod.snd performed]
    exact length_mailbox_perform s cmd
  · have same : u.mailbox = s.mailbox := by
      obtain ⟨-, rfl⟩ := collect?_eq_some_iff.mp collected
      split <;> rfl
    rw [show t = (u.perform cmd).2 from congrArg Prod.snd performed, ← same]
    exact length_mailbox_perform u cmd

/-- A command that is heard brings at most a stop marker into the mailbox. -/
theorem length_mailbox_call (s : Loopback) (cmd : Command) : (s.call cmd).mailbox.length ≤ s.mailbox.length + 1 := by
  rw [(call_fields s cmd).2, List.length_append]
  split <;> simp

end Loopback

namespace Session

variable {c : Config} {s t : Session Loopback}

/-- Whether a move only lets a session go on: its worker or its loop takes a step, or time passes. -/
def Move.isOnward {σ : Type} : Move σ → Bool
  | .work | .deliver | .pass _ => true
  | _ => false

/-- How much is left to do for the job at work, given the command that it waits for. -/
def remaining (cmd : Command) : Nat := if cmd = .startLoop ∨ cmd = .stopLoop then 4 else 8

/-- How much a session has left to do. A job may have two commands, and each of them may bring two things into the
mailbox. -/
def effort (s : Session Loopback) : Nat :=
  10 * s.queue.backlog.length + s.said.elim 0 remaining + s.engine.mailbox.length

theorem effort_of_busy {x : Exchange} (busy : s.exchange = some x) :
    s.effort = 10 * s.queue.backlog.length + remaining x.command + s.engine.mailbox.length := by
  rw [effort, said_of_busy busy, Option.elim_some]

theorem effort_of_free (free : s.exchange = none) :
    s.effort = 10 * s.queue.backlog.length + s.engine.mailbox.length := by
  rw [effort, said_of_free free, Option.elim_none, Nat.add_zero]

theorem effort_of_workerStep (order : s.Orderly) (step : WorkerStep Loopback.engine s t)
    (works : s.queue.isIdle = false) : t.effort < s.effort := by
  cases step with
  | @dismiss job rest reply free alive waits dismissed =>
    rw [effort_of_free free, effort_of_free rfl, waits, List.length_cons]
    exact Nat.add_lt_add_right (Nat.mul_lt_mul_of_pos_left (Nat.lt_succ_self _) (by decide)) _
  | @begin job rest cmd free alive waits opens =>
    -- The job counts ten no longer, but its first command eight, and the call brings one thing at most.
    have heard := Loopback.length_mailbox_call s.engine cmd
    have weight : remaining cmd = 8 := if_neg (by simpa using Task.opening_ne_loop opens)
    rw [effort_of_free free, effort_of_busy rfl, waits, List.length_cons]
    simp only [say, Loopback.engine, weight]
    omega
  | retire free alive empty closed =>
    have idle : s.queue.isIdle = true := by
      rw [WorkQueue.isIdle_iff, order.working, free]
      exact ⟨empty, rfl⟩
    rw [works] at idle
    cases idle
  | @goOn x r engine cmd earlier busy answered follows =>
    obtain ⟨a, before, talk⟩ := order.talking x busy
    obtain ⟨opens, next⟩ := talk.next follows
    have sent := Loopback.length_mailbox_finish answered
    have heard := Loopback.length_mailbox_call engine cmd
    have weight : remaining x.command = 8 := if_neg (by simpa using Task.opening_ne_loop opens)
    -- The second command of a job is about the loop, and nothing comes behind it.
    have lighter : remaining cmd = 4 := by
      rcases next with ⟨-, -, rfl⟩ | ⟨-, -, rfl⟩ <;> rfl
    rw [effort_of_busy busy, effort_of_busy rfl]
    simp only [say, heed, Loopback.engine, weight, lighter]
    omega
  | @finish x r engine reply busy answered follows =>
    have sent := Loopback.length_mailbox_finish answered
    have weight : 4 ≤ remaining x.command := by
      unfold remaining
      split <;> omega
    rw [effort_of_busy busy, effort_of_free rfl]
    simp only [complete, resolve, heed, WorkQueue.finish]
    omega

theorem effort_of_loopStep? (taken : s.loopStep? Loopback.engine = some t) : t.effort < s.effort := by
  obtain ⟨running, rest, cases⟩ := loopStep?_loopback taken
  rcases cases with ⟨event, waits, rfl⟩ | ⟨waits, rfl⟩
  · obtain ⟨phase, journal, heard⟩ := receive_frame
      (s := { s with engine := { s.engine with mailbox := rest } }) (.event event)
    rw [show hear _ event = _ from heard]
    simp [effort, said, waits]
  · simp [effort, said, waits]

/-- A session with something left to do gets on: a move leaves less to do, perhaps after some time. -/
theorem exists_less_effort (lively : s.Lively) (works : s.queue.isIdle = false) :
    ∃ ns : List (Move Loopback), (∀ n ∈ ns, n.isOnward = true) ∧ (s.after Loopback.engine c ns).effort < s.effort := by
  -- After long enough nothing waits for a timer any more.
  let patience : Nat := s.exchange.elim 0 Exchange.due
  let u : Session Loopback := { s with clock := s.clock + patience }
  have later : u.Lively := lively.move (c := c) (m := .pass patience) trivial rfl
  have timeless : (process Loopback.engine).wake? u = none := by
    have early : u.exchange.bind (fun x => if u.clock < x.due then some x.due else none) = none := by
      cases busy : s.exchange with
      | none => simp [u]
      | some x => simp [u, busy, patience]
    simp only [process, early]
    rfl
  have moves : (process Loopback.engine).step u ≠ none := by
    intro still
    exact absurd (works.symm.trans (later.isIdle_of_quiet ⟨still, timeless⟩)) (by decide)
  cases worked : u.workerStep? Loopback.engine with
  | some t =>
    refine ⟨[.pass patience, .work], by simp [Move.isOnward], ?_⟩
    have made : s.after Loopback.engine c [.pass patience, .work] = t := by
      simp [after, move, move?, u, worked]
    have less : t.effort < u.effort := effort_of_workerStep later.order (workerStep_of_workerStep? worked) works
    rwa [made]
  | none =>
    cases taken : u.loopStep? Loopback.engine with
    | some t =>
      refine ⟨[.pass patience, .deliver], by simp [Move.isOnward], ?_⟩
      have made : s.after Loopback.engine c [.pass patience, .deliver] = t := by
        simp [after, move, move?, u, taken]
      have less : t.effort < u.effort := effort_of_loopStep? taken
      rwa [made]
    | none => exact absurd (by simp [process, worked, taken]) moves

theorem Move.calm_of_isOnward {m : Move Loopback} (onward : m.isOnward = true) : m.Calm := by
  cases m with
  | outside | crash => cases onward
  | _ => trivial

/-- A session that is left alone comes to the end of its jobs. -/
theorem exists_idle (lively : s.Lively) :
    ∃ ns : List (Move Loopback), (∀ n ∈ ns, n.isOnward = true) ∧
      (s.after Loopback.engine c ns).queue.isIdle = true := by
  -- The induction is on what is left to do.
  induction left : s.effort using Nat.strongRecOn generalizing s with
  | ind n ih =>
    subst left
    cases idle : s.queue.isIdle with
    | true => exact ⟨[], nofun, idle⟩
    | false =>
      obtain ⟨ns, onward, less⟩ := exists_less_effort (c := c) lively idle
      have next := lively.after (c := c) fun n among => Move.calm_of_isOnward (onward n among)
      obtain ⟨more, onward', ends⟩ := ih _ less next rfl
      refine ⟨ns ++ more, List.forall_mem_append.mpr ⟨onward, onward'⟩, ?_⟩
      rwa [after_append]

end Session

end BrokerSession
