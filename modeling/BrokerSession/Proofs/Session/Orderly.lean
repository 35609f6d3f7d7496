import BrokerSession.Proofs.Session.Worker

/-!
# Order in a session

Whatever the engine answers and in whatever order things happen, a few facts hold of a session whose worker does
not crash: what the engine was last told belongs to the job at work, the queue takes jobs while the owner has
the session, and the jobs that remain end where the session is meant to be. A session that is meant to run has
no disconnect left without a connect behind it, and one that is meant to rest has no connect left without a
disconnect behind it.

## Main definitions

* `Session.pending` - the jobs that remain, with the one at work
* `Followed` - every job of one kind has a job of another kind behind it
* `Session.Orderly` - the facts above

## Main results

* `Orderly.pending_suffix` - the worker takes the jobs in their order
* `Orderly.workerStep`, `Orderly.move` - every step keeps the order
* `orderly_of_establish` - a session begins in order
-/

namespace BrokerSession

/-- Every job of one kind has a job of another kind behind it. -/
def Followed (p q : Task → Bool) : List Job → Prop
  | [] => True
  | job :: jobs => (p job.task = true → ∃ k ∈ jobs, q k.task = true) ∧ Followed p q jobs

/-- New jobs that are not of the first kind leave no job without a successor, and give every job one if one of
them is of the second kind. -/
theorem Followed.append {p q : Task → Bool} {jobs more : List Job}
    (none : ∀ k ∈ more, p k.task = false)
    (h : Followed p q jobs ∨ ∃ k ∈ more, q k.task = true) : Followed p q (jobs ++ more) := by
  induction jobs with
  | nil =>
    -- The old jobs are used up, and none of the new ones asks for a successor.
    rw [List.nil_append]
    clear h
    induction more with
    | nil => trivial
    | cons k more ih =>
      refine ⟨fun first => ?_, ih fun j hj => none j (List.mem_cons_of_mem _ hj)⟩
      rw [none k List.mem_cons_self] at first
      cases first
  | cons job jobs ih =>
    rcases h with ⟨next, rest⟩ | ⟨k, new, hq⟩
    · refine ⟨fun hp => ?_, ih (.inl rest)⟩
      obtain ⟨k, old, hq⟩ := next hp
      exact ⟨k, List.mem_append_left _ old, hq⟩
    · exact ⟨fun _ => ⟨k, List.mem_append_right _ new, hq⟩, ih (.inr ⟨k, new, hq⟩)⟩

theorem Followed.suffix {p q : Task → Bool} {jobs rest : List Job} (h : Followed p q jobs)
    (behind : rest <:+ jobs) : Followed p q rest := by
  obtain ⟨done, rfl⟩ := behind
  induction done with
  | nil => exact h
  | cons job done ih => exact ih h.2

theorem Followed.none {p q : Task → Bool} {jobs : List Job} (h : Followed p q jobs)
    (gone : ∀ k ∈ jobs, q k.task = false) : ∀ k ∈ jobs, p k.task = false := by
  induction jobs with
  | nil => exact fun k hk => by cases hk
  | cons job jobs ih =>
    intro k hk
    rcases List.mem_cons.mp hk with rfl | later
    · by_contra first
      obtain ⟨next, behind, second⟩ := h.1 (by simpa using first)
      rw [gone next (List.mem_cons_of_mem _ behind)] at second
      cases second
    · exact ih h.2 (fun j hj => gone j (List.mem_cons_of_mem _ hj)) k later

namespace Session

variable {σ : Type} {e : Engine σ} {c : Config} {s t : Session σ}

/-- A worker that is idle waits for no answer. -/
theorem exchange_eq_none_of_idle (working : s.queue.active = s.exchange.map (·.job))
    (idle : s.queue.isIdle = true) : s.exchange = none := by
  rw [((WorkQueue.isIdle_iff _).mp idle).2] at working
  exact Option.map_eq_none_iff.mp working.symm

/-! ## The jobs of an order -/

/-- An order after which a session is meant to run brings no disconnect, and a connect if the session rested. -/
theorem Order.jobs_of_running {o : Order} {running : Bool} (ticket : Ticket)
    (after : o.runs running = true) :
    (∀ k ∈ o.jobs c running ticket, k.task.disconnects = false) ∧
      (running = true ∨ ∃ k ∈ o.jobs c running ticket, k.task.connects = true) := by
  cases o with
  | request op =>
    cases op <;>
      simp_all [runs, connects, jobs, tasks, Task.connects, Task.disconnects]
  | mark => simp_all [runs, connects, jobs, tasks, Task.disconnects]
  | letGo => simp [runs] at after

theorem Order.jobs_of_resting {o : Order} {running : Bool} (ticket : Ticket)
    (after : o.runs running = false) :
    (∀ k ∈ o.jobs c running ticket, k.task.connects = false) ∧
      (running = false ∨ ∃ k ∈ o.jobs c running ticket, k.task.disconnects = true) := by
  cases running <;> cases o with
  | request op =>
    cases op <;>
      simp_all [runs, connects, jobs, tasks, Task.connects, Task.disconnects]
  | mark => simp_all [runs, connects, jobs, tasks, Task.connects]
  | letGo => simp [jobs, tasks, Task.connects, Task.disconnects]

theorem Order.disconnects_of_mem_jobs {o : Order} {running : Bool} {ticket : Ticket} {k : Job}
    (rests : running = false) (new : k ∈ o.jobs c running ticket) : k.task.disconnects = false := by
  cases o with
  | request op => cases op <;> simp_all [jobs, tasks, Task.disconnects]
  | mark => simp_all [jobs, tasks, Task.disconnects]
  | letGo => simp_all [jobs, tasks, Task.disconnects]

/-! ## The order of a session -/

/-- The jobs that remain, the one at work first. -/
def pending (s : Session σ) : List Job := s.queue.active.toList ++ s.queue.backlog

/-- What holds of every session whose worker did not crash. -/
structure Orderly (s : Session σ) : Prop where
  /-- The worker waits for an answer exactly when it has a job. -/
  working : s.queue.active = s.exchange.map (·.job)
  /-- What it waits for belongs to the job. -/
  talking : ∀ x, s.exchange = some x → ∃ a before, x.Talk a before
  /-- The queue takes jobs while the owner has the session. -/
  taking : s.tornDown = false → s.queue.isClosed = false
  /-- No disconnect is the last word for a session that is meant to run. -/
  running : s.standing.running = true → Followed Task.disconnects Task.connects s.pending
  /-- No connect is the last word for a session that is meant to rest. -/
  resting : s.standing.running = false → Followed Task.connects Task.disconnects s.pending

namespace Orderly

theorem pending_of_free (order : s.Orderly) (free : s.exchange = none) :
    s.pending = s.queue.backlog := by
  rw [pending, order.working, free]
  rfl

theorem pending_of_busy {x : Exchange} (order : s.Orderly) (busy : s.exchange = some x) :
    s.pending = x.job :: s.queue.backlog := by
  rw [pending, order.working, busy]
  rfl

theorem obey (order : s.Orderly) (o : Order) : (s.obey c o).Orderly := by
  cases here : s.tornDown with
  | true => rwa [obey_of_tornDown here]
  | false =>
    have taking := order.taking here
    rw [obey_eq here taking]
    refine ⟨order.working, order.talking, fun _ => by simpa using taking, fun after => ?_,
      fun after => ?_⟩
    · rw [Order.standing_running] at after
      obtain ⟨none, next⟩ := Order.jobs_of_running (c := c) s.nextTicket after
      simp only [pending, ← List.append_assoc]
      exact .append none (next.imp_left order.running)
    · rw [Order.standing_running] at after
      obtain ⟨none, next⟩ := Order.jobs_of_resting (c := c) s.nextTicket after
      simp only [pending, ← List.append_assoc]
      exact .append none (next.imp_left order.resting)

/-- A step of the worker takes at most the first of the jobs that remain. -/
theorem pending_suffix (order : s.Orderly) (step : WorkerStep e s t) : t.pending <:+ s.pending := by
  cases step with
  | @dismiss job rest reply free alive waits dismissed =>
    rw [order.pending_of_free free, waits]
    exact List.suffix_cons job rest
  | @begin job rest cmd free alive waits opens =>
    rw [order.pending_of_free free, waits]
    exact List.suffix_rfl
  | retire free alive empty closed => exact List.suffix_rfl
  | goOn busy answered follows => exact List.suffix_rfl
  | @finish x r engine reply busy answered follows =>
    rw [order.pending_of_busy busy]
    exact List.suffix_cons x.job s.queue.backlog

theorem workerStep (order : s.Orderly) (step : WorkerStep e s t) : t.Orderly := by
  -- What remains is a suffix of what remained, and what stands behind a job stays behind it.
  have behind := order.pending_suffix step
  have run : t.standing.running = true → Followed Task.disconnects Task.connects t.pending :=
    fun h => (order.running (step.running ▸ h)).suffix behind
  have rest : t.standing.running = false → Followed Task.connects Task.disconnects t.pending :=
    fun h => (order.resting (step.running ▸ h)).suffix behind
  cases step with
  | dismiss free alive waits dismissed =>
    exact ⟨rfl, fun x hx => (by cases hx), order.taking, run, rest⟩
  | begin free alive waits opens =>
    refine ⟨rfl, fun x hx => ?_, order.taking, run, rest⟩
    obtain rfl := Option.some.inj hx
    exact ⟨fun _ => ⟨.success, 0⟩, [], .opening opens⟩
  | retire free alive empty closed =>
    refine ⟨order.working, order.talking, fun here => ?_, run, rest⟩
    have taking := order.taking here
    simp [WorkQueue.isClosed, closed] at taking
  | @goOn x r engine cmd earlier busy answered follows =>
    have working : s.queue.active = some x.job := by rw [order.working, busy]; rfl
    refine ⟨working, fun y hy => ?_, order.taking, run, rest⟩
    obtain ⟨a, before, talk⟩ := order.talking x busy
    obtain rfl := Option.some.inj hy
    exact ⟨_, _, talk.say follows _⟩
  | finish busy answered follows =>
    exact ⟨rfl, fun y hy => (by cases hy), order.taking, run, rest⟩

/-- Everything that can happen to a session, short of a crash, keeps the order. -/
theorem move {m : Move σ} (order : s.Orderly) (sound : m ≠ .crash) (h : s.move? e c m = some t) :
    t.Orderly := by
  cases m with
  | order o =>
    obtain rfl := Option.some.inj h
    exact order.obey o
  | close =>
    obtain ⟨gone, rfl⟩ := eq_of_close h
    exact ⟨order.working, order.talking, fun here => by simp_all [closeQueue], order.running,
      order.resting⟩
  | work => exact order.workerStep (workerStep_of_workerStep? h)
  | deliver =>
    obtain ⟨-, engine, phase, journal, -, rfl⟩ := loopStep?_frame h
    exact ⟨order.working, order.talking, order.taking, order.running, order.resting⟩
  | pass millis | outside f | clearDirectory =>
    obtain rfl := Option.some.inj h
    exact ⟨order.working, order.talking, order.taking, order.running, order.resting⟩
  | crash => exact absurd rfl sound

end Orderly

/-! ## The beginning of a session -/

/-- What a session is when it begins. -/
theorem establish_eq_ok {hosted : Bool} {fs : Files} {env : Environment} {clientId : String}
    {wanted : List Notice.Kind} {directory : Directory Listener} {engine engine' : σ}
    (h : establish e hosted fs env c clientId wanted directory engine = (.ok s, engine')) :
    ∃ staged, c.stage e.set fs env clientId engine = (.ok (), staged) ∧
      s = {
        clientId
        key := (directory.register ⟨clientId, wanted, c.retry.isEnabled⟩).1
        standing := ⟨.disconnected, false⟩
        engine := e.attach staged
        queue := .fresh
        exchange := none
        directory := (directory.register ⟨clientId, wanted, c.retry.isEnabled⟩).2
        journal := []
        resolved := []
        nextTicket := 0
        tornDown := false
        clock := 0 } := by
  unfold establish at h
  split at h
  · cases h
  · split at h
    · cases h
    · rename_i staged staging
      cases h
      exact ⟨staged, staging, rfl⟩

theorem orderly_of_establish {hosted : Bool} {fs : Files} {env : Environment} {clientId : String}
    {wanted : List Notice.Kind} {directory : Directory Listener} {engine engine' : σ}
    (h : establish e hosted fs env c clientId wanted directory engine = (.ok s, engine')) :
    s.Orderly := by
  obtain ⟨staged, -, rfl⟩ := establish_eq_ok h
  exact ⟨rfl, fun x hx => (by cases hx), fun _ => rfl, fun _ => trivial, fun _ => trivial⟩

end Session

end BrokerSession
