import BrokerSession.Proofs.Histories
import BrokerSession.Proofs.Session.Orderly
import Mathlib.Data.List.Induction

/-!
# How long a session stays in the directory

A session is entered in the directory when it begins. Its owner lets it go through its last job, which lets the engine
go and then takes the session out; only if the queue does not take this job any more is the session taken out at once.
So the key depends on a job: when a job crashes behind which the last one waits, or the last one itself does, then
nobody is left to take the session out, and the owner who has let it go cannot do it either. Then it stays in the
directory with everything that is registered for it.

## Main definitions

* `Session.isRegistered` - whether the key of a session is in the directory
* `Session.farewells` - how many jobs remain that let the engine go
* `Session.Stranded` - in a run, a job has crashed while such a job remained
* `Session.Enrolled` - what the directory, the jobs and the worker have to do with each other

## Main results

* `Enrolled.move` - every move keeps it so
* `registered_iff_stranded` - when a session that was let go has lost its worker and is still in the directory
* `registered_of_stranded` - a session that stays in the directory for ever
-/

namespace BrokerSession

namespace Session

variable {σ : Type} {e : Engine σ} {c : Config} {s t : Session σ}

/-- Whether the key of a session is in the directory. -/
def isRegistered (s : Session σ) : Bool := s.directory.contains s.key

theorem isRegistered_eq_false_iff : s.isRegistered = false ↔ s.directory.lookup? s.key = none := by
  rw [isRegistered, Directory.contains, Option.isSome_eq_false_iff, Option.isNone_iff_eq_none]

/-- How many jobs remain that let the engine go. -/
def farewells (s : Session σ) : Nat := s.abandoned.countP (·.task == .destroy)

theorem farewells_pos_iff : 0 < s.farewells ↔ ∃ k ∈ s.abandoned, k.task = .destroy := by
  simp [farewells, List.countP_pos_iff]

/-- A job has crashed while one remained that was to let the engine go. -/
def Stranded (e : Engine σ) (c : Config) (s : Session σ) (ms : List (Move σ)) : Prop :=
  ∃ early late, ms = early ++ .crash :: late ∧ (s.after e c early).queue.active.isSome = true ∧
    ∃ k ∈ (s.after e c early).abandoned, k.task = .destroy

theorem stranded_concat {ms : List (Move σ)} {m : Move σ} :
    s.Stranded e c (ms ++ [m]) ↔
      s.Stranded e c ms ∨
        m = .crash ∧ (s.after e c ms).queue.active.isSome = true ∧ 0 < (s.after e c ms).farewells := by
  rw [farewells_pos_iff]
  constructor
  · rintro ⟨early, late, split, active, remains⟩
    obtain ⟨rfl, same, -⟩ | ⟨rest, -, split⟩ := concat_eq_append_cons_iff.mp split
    · exact .inr ⟨same.symm, active, remains⟩
    · exact .inl ⟨early, rest, split, active, remains⟩
  · rintro (⟨early, late, rfl, active, remains⟩ | ⟨rfl, active, remains⟩)
    · exact ⟨early, late ++ [m], by simp, active, remains⟩
    · exact ⟨ms, [], rfl, active, remains⟩

/-! ## Taking a session out -/

/-- An order to a session whose queue takes no jobs takes the session out if it is to let it go, and leaves the
directory alone otherwise. -/
theorem obey_of_refusing (here : s.tornDown = false) (closed : s.queue.isClosed = true) (o : Order) :
    (s.obey c o).key = s.key ∧ (s.obey c o).tornDown = o.isLetGo ∧
      (s.obey c o).directory = if o.isLetGo then (s.directory.unregister s.key).2 else s.directory := by
  cases o with
  | request op =>
    cases op with
    | disconnect =>
      cases running : s.standing.running <;>
        simp [obey, here, Operation.run, disconnect, endConnection, running, submit_of_isClosed, closed, setRunning,
          setPhase, draw, resolve, Order.isLetGo]
    | _ =>
      simp [obey, here, Operation.run, connect, reconnect, publish, subscribe, unsubscribe, start, submit_of_isClosed,
        closed, setRunning, setPhase, Order.isLetGo]
  | mark => simp [obey, here, mark, draw, enqueue?, WorkQueue.enqueue?, closed, resolve, Order.isLetGo]
  | letGo =>
    cases running : s.standing.running <;>
      simp [obey, here, tearDown, endConnection, running, submit_of_isClosed, closed, setRunning, setPhase, enqueue?,
        WorkQueue.enqueue?, unregister, warn, note, Order.isLetGo]

/-- An order brings one job that lets the engine go if it is to let the session go, and none otherwise. -/
theorem Order.countP_jobs (o : Order) (running : Bool) (ticket : Ticket) :
    (o.jobs c running ticket).countP (·.task == .destroy) = if o.isLetGo then 1 else 0 := by
  cases stays : o.isLetGo with
  | false =>
    rw [if_neg Bool.false_ne_true, List.countP_eq_zero]
    intro k brought
    obtain ⟨task, among, rfl⟩ := List.mem_map.mp brought
    have other : task ≠ .destroy := fun same => Order.destroy_notMem_tasks stays (same ▸ among)
    simpa using other
  | true =>
    cases o with
    | letGo => cases running <;> rfl
    | _ => cases stays

/-! ## The directory, the jobs and the worker -/

/-- What the directory, the jobs and the worker have to do with each other, given whether the directory was cleared and
whether a job has crashed while one remained that was to let the engine go. -/
structure Enrolled (cleared stranded : Prop) (s : Session σ) : Prop where
  /-- The session is in the directory until its last job is done. -/
  registered : s.isRegistered = true ↔ ¬ cleared ∧ (s.tornDown = false ∨ 0 < s.farewells ∨ stranded)
  /-- There is one last job, and only once the session was let go. -/
  once : s.farewells ≤ if s.tornDown then 1 else 0
  order : s.queue.worker = .alive → s.Orderly
  /-- Without a worker nothing remains. -/
  empty : s.queue.worker ≠ .alive → s.abandoned = [] ∧ s.exchange = none
  lost : stranded → s.tornDown = true ∧ s.queue.worker = .crashed

namespace Enrolled

variable {cleared stranded : Prop}

theorem alive (h : s.Enrolled cleared stranded) (active : s.queue.active.isSome = true) :
    s.queue.worker = .alive := by
  by_contra gone
  obtain ⟨job, working⟩ := Option.isSome_iff_exists.mp active
  have none := (h.empty gone).1
  simp [abandoned, working] at none

theorem tornDown_of_farewells (h : s.Enrolled cleared stranded) (remains : 0 < s.farewells) : s.tornDown = true := by
  by_contra here
  have once := h.once
  rw [if_neg here] at once
  omega

/-- A session that its owner has is in the directory, unless that was cleared, and no last job was lost. -/
theorem present (h : s.Enrolled cleared stranded) (here : s.tornDown = false) :
    (s.isRegistered = true ↔ ¬ cleared) ∧ s.farewells = 0 ∧ ¬ stranded := by
  have whole : ¬ stranded := fun lost => by simp [(h.lost lost).1] at here
  exact ⟨by simp [h.registered, here], by simpa [here] using h.once, whole⟩

theorem obey (h : s.Enrolled cleared stranded) (o : Order) : (s.obey c o).Enrolled cleared stranded := by
  cases here : s.tornDown with
  | true => rwa [obey_of_tornDown here]
  | false =>
    obtain ⟨registered, none, whole⟩ := h.present here
    cases closed : s.queue.isClosed with
    | false =>
      -- The queue takes the job that lets the engine go, and the session stays in the directory with it.
      have alive : s.queue.worker = .alive := by simp [WorkQueue.isClosed] at closed; exact closed.2
      have order := (h.order alive).obey (c := c) o
      rw [obey_eq here closed] at order ⊢
      have brought : farewells { s with
          queue := { s.queue with backlog := s.queue.backlog ++ o.jobs c s.standing.running s.nextTicket } } =
          if o.isLetGo then 1 else 0 := by
        rw [← Order.countP_jobs (c := c) o s.standing.running s.nextTicket]
        have before : s.queue.active.toList.countP (·.task == .destroy) + s.queue.backlog.countP (·.task == .destroy) =
            0 := by rw [← List.countP_append]; exact none
        simp only [farewells, abandoned, List.countP_append]
        omega
      refine ⟨?_, Nat.le_of_eq brought, fun _ => order, fun gone => absurd alive gone, fun lost => absurd lost whole⟩
      change s.isRegistered = true ↔ ¬ cleared ∧ (o.isLetGo = false ∨ 0 < farewells { s with
        queue := { s.queue with backlog := s.queue.backlog ++ o.jobs c s.standing.running s.nextTicket } } ∨ stranded)
      rw [brought, registered]
      cases o.isLetGo <;> simp
    | true =>
      -- The queue refuses the job, so the session is taken out at once.
      have gone : s.queue.worker ≠ .alive := by
        intro alive
        rw [(h.order alive).taking here] at closed
        cases closed
      obtain ⟨key, torn, directory⟩ := obey_of_refusing (c := c) here closed o
      obtain ⟨queue, exchange, -⟩ := obey_of_isClosed (c := c) closed o
      have same : (s.obey c o).farewells = 0 := by simpa only [farewells, abandoned, queue] using none
      refine ⟨?_, by omega, fun alive => absurd (queue ▸ alive) gone, fun _ => ?_, fun lost => absurd lost whole⟩
      · rw [torn, same]
        cases leaves : o.isLetGo with
        | false =>
          rw [leaves, if_neg Bool.false_ne_true] at directory
          rw [isRegistered, directory, key]
          simpa [isRegistered] using registered
        | true =>
          rw [leaves, if_pos rfl] at directory
          rw [isRegistered, directory, key]
          simp [Directory.contains, whole]
      · rw [abandoned, queue, exchange]
        exact h.empty gone

/-- A session whose last job is not done yet keeps its place, and the last job takes it out. -/
theorem workerStep (h : s.Enrolled cleared stranded) (step : WorkerStep e s t) : t.Enrolled cleared stranded := by
  have working (x : Exchange) (busy : s.exchange = some x) : s.queue.worker = .alive := by
    by_contra gone
    rw [(h.empty gone).2] at busy
    cases busy
  cases step with
  | @dismiss job rest reply free alive waits dismissed =>
    have order := (h.order alive).workerStep (e := e) (.dismiss free alive waits dismissed)
    have same :
        farewells ({ s with queue := { s.queue with backlog := rest, active := some job } }.complete job reply) =
          s.farewells := by
      have other := Task.ne_destroy_of_dismissal? dismissed
      have none := (h.order alive).working
      rw [free] at none
      simp [farewells, abandoned, complete, resolve, WorkQueue.finish, none, waits, other]
    refine ⟨?_, same ▸ h.once, fun _ => order, fun gone => absurd alive gone, h.lost⟩
    rw [same]
    exact h.registered
  | @begin job rest cmd free alive waits opens =>
    have order := (h.order alive).workerStep (e := e) (.begin free alive waits opens)
    have same :
        farewells ({ s with queue := { s.queue with backlog := rest, active := some job } }.say e job cmd none) =
          s.farewells := by
      have none := (h.order alive).working
      rw [free] at none
      simp [farewells, abandoned, say, none, waits]
    refine ⟨?_, same ▸ h.once, fun _ => order, fun gone => absurd alive gone, h.lost⟩
    rw [same]
    exact h.registered
  | retire free alive empty closed =>
    have none := (h.order alive).working
    rw [free] at none
    refine ⟨h.registered, h.once, fun here => (by cases here), fun _ => ⟨by simp [abandoned, none, empty], free⟩,
      fun lost => ?_⟩
    simp [(h.lost lost).2] at alive
  | @goOn x r engine cmd earlier busy answered follows =>
    have alive := working x busy
    have order := (h.order alive).workerStep (.goOn busy answered follows)
    have lasts : x.command ≠ .destroy := by
      intro last
      simp [Exchange.sequel, last] at follows
    refine ⟨?_, h.once, fun _ => order, fun gone => absurd alive gone, h.lost⟩
    rw [isRegistered, say, directory_heed lasts]
    exact h.registered
  | @finish x r engine reply busy answered follows =>
    have alive := working x busy
    have whole : ¬ stranded := fun lost => by simp [(h.lost lost).2] at alive
    have order := (h.order alive).workerStep (.finish busy answered follows)
    obtain ⟨a, before, talk⟩ := (h.order alive).talking x busy
    have job : s.queue.active = some x.job := by rw [(h.order alive).working, busy]; rfl
    -- A last job counts until it is done, and then no more.
    have one : s.farewells = farewells (({ s with engine }.heed x r).complete x.job reply) +
        if x.command = .destroy then 1 else 0 := by
      simp [farewells, abandoned, complete, resolve, heed, WorkQueue.finish, job, List.countP_cons,
        talk.command_eq_destroy_iff, Nat.add_comm]
    have once := h.once
    refine ⟨?_, Nat.le_trans (by omega) once, fun _ => order, fun gone => absurd alive gone, h.lost⟩
    -- Only the end of a last job touches the directory, and there is at most one such job.
    by_cases last : x.command = .destroy
    · rw [if_pos last] at one
      have torn := h.tornDown_of_farewells (by omega)
      rw [torn, if_pos rfl] at once
      have none : farewells (({ s with engine }.heed x r).complete x.job reply) = 0 := by omega
      rw [none]
      have out : isRegistered (({ s with engine }.heed x r).complete x.job reply) = false := by
        simp [isRegistered, complete, resolve, heed, last, Directory.contains]
      rw [out]
      simp [complete, resolve, heed, torn, whole]
    · rw [if_neg last, Nat.add_zero] at one
      rw [← one, isRegistered, complete, resolve, directory_heed last]
      exact h.registered

/-- A crash leaves the directory alone; what remained is lost. -/
theorem crash (h : s.Enrolled cleared stranded) : (s.crash e).Enrolled cleared (stranded ∨ 0 < s.farewells) := by
  rw [crash_frame]
  refine ⟨?_, Nat.zero_le _, nofun, fun _ => ⟨rfl, rfl⟩, fun lost => ⟨?_, rfl⟩⟩
  · have none : farewells { s with
        resolved := s.resolved ++ s.abandoned.filterMap fun job => job.ticket.map (·, .closed)
        queue := s.queue.crash
        exchange := none
        engine := e.release s.engine } = 0 := rfl
    rw [none]
    refine h.registered.trans ?_
    simp [or_comm]
  · exact lost.elim (fun lost => (h.lost lost).1) h.tornDown_of_farewells

/-- Every move keeps the session, its jobs and the directory together. -/
theorem move {m : Move σ} (h : s.Enrolled cleared stranded) (made : s.move? e c m = some t) :
    t.Enrolled (cleared ∨ m = .clearDirectory)
      (stranded ∨ m = .crash ∧ s.queue.active.isSome = true ∧ 0 < s.farewells) := by
  have order (sound : m ≠ .crash) (alive : s.queue.worker = .alive) : t.Orderly := (h.order alive).move sound made
  cases m with
  | order o =>
    obtain rfl := Option.some.inj made
    simpa using h.obey o
  | work => simpa using h.workerStep (workerStep_of_workerStep? made)
  | crash =>
    obtain ⟨active, rfl⟩ := eq_of_crash made
    simpa [active] using h.crash
  | clearDirectory =>
    obtain rfl := Option.some.inj made
    refine ⟨by simp [isRegistered, Directory.contains], h.once, order nofun, h.empty, by simpa using h.lost⟩
  | close =>
    obtain ⟨gone, rfl⟩ := eq_of_close made
    simp only [reduceCtorEq, or_false, false_and]
    exact ⟨h.registered, h.once, order nofun, h.empty, h.lost⟩
  | deliver =>
    obtain ⟨-, engine, phase, journal, -, rfl⟩ := loopStep?_frame made
    simp only [reduceCtorEq, or_false, false_and]
    exact ⟨h.registered, h.once, order nofun, h.empty, h.lost⟩
  | pass millis | outside f =>
    obtain rfl := Option.some.inj made
    simp only [reduceCtorEq, or_false, false_and]
    exact ⟨h.registered, h.once, order nofun, h.empty, h.lost⟩

theorem of_establish {hosted : Bool} {fs : Files} {env : Environment} {clientId : String}
    {wanted : List Notice.Kind} {directory : Directory Listener} {given engine : σ}
    (established : establish e hosted fs env c clientId wanted directory given = (.ok s, engine)) :
    s.Enrolled False False := by
  have order := orderly_of_establish established
  obtain ⟨staged, -, rfl⟩ := establish_eq_ok established
  refine ⟨?_, Nat.zero_le _, fun _ => order, nofun, nofun⟩
  simp [isRegistered, Directory.contains, Directory.lookup?_register]

/-- Whatever happens to a session, it stays together with its jobs and the directory. -/
theorem after (h : s.Enrolled False False) (ms : List (Move σ)) :
    (s.after e c ms).Enrolled (.clearDirectory ∈ ms) (s.Stranded e c ms) := by
  induction ms using List.reverseRecOn with
  | nil =>
    have whole : ¬ s.Stranded e c [] := by
      rintro ⟨early, late, split, -⟩
      simp at split
    simpa [whole, Session.after] using h
  | append_singleton ms m kept =>
    have cleared : .clearDirectory ∈ ms ++ [m] ↔ .clearDirectory ∈ ms ∨ m = .clearDirectory := by
      simp [eq_comm]
    rw [cleared, stranded_concat, after_append]
    change ((s.after e c ms).move e c m).Enrolled _ _
    cases made : (s.after e c ms).move? e c m with
    | some t =>
      have same : (s.after e c ms).move e c m = t := by simp [Session.move, made]
      rw [same]
      exact kept.move made
    | none =>
      -- What is passed over is neither a crash of a job at work nor a clearing of the directory.
      have same : (s.after e c ms).move e c m = s.after e c ms := by simp [Session.move, made]
      have other : m ≠ .clearDirectory := by rintro rfl; cases made
      have safe : ¬ (m = .crash ∧ (s.after e c ms).queue.active.isSome = true ∧ 0 < (s.after e c ms).farewells) := by
        rintro ⟨rfl, active, -⟩
        simp [move?, active] at made
      rw [same]
      simpa [other, safe] using kept

end Enrolled

/-! ## What is left of a session -/

/-- A session keeps its key. -/
theorem key_of_move? {m : Move σ} (made : s.move? e c m = some t) : t.key = s.key := by
  cases m with
  | order o =>
    obtain rfl := Option.some.inj made
    cases here : s.tornDown with
    | true => rw [obey_of_tornDown here]
    | false =>
      cases closed : s.queue.isClosed with
      | false => rw [obey_eq here closed]
      | true => exact (obey_of_refusing here closed o).1
  | work => cases workerStep_of_workerStep? made <;> rfl
  | crash =>
    obtain ⟨-, rfl⟩ := eq_of_crash made
    rw [crash_frame]
  | _ =>
    obtain ⟨_, _, _, _, _, _, rfl⟩ := move?_frame made rfl
    rfl

theorem key_after (s : Session σ) (ms : List (Move σ)) : (s.after e c ms).key = s.key :=
  after_induction (P := fun u => u.key = s.key) rfl fun _ same _ _ _ made => (key_of_move? made).trans same

/-- A session that was let go and whose worker is gone, whether it has ended or crashed, is still in the directory
exactly if a job has crashed while one remained that was to let the engine go, and the directory was never cleared. -/
theorem registered_iff_stranded {hosted : Bool} {fs : Files} {env : Environment} {clientId : String}
    {wanted : List Notice.Kind} {directory : Directory Listener} {given engine : σ}
    (established : establish e hosted fs env c clientId wanted directory given = (.ok s, engine)) (ms : List (Move σ))
    (gone : (s.after e c ms).tornDown = true) (dead : (s.after e c ms).queue.worker ≠ .alive) :
    (s.after e c ms).directory.lookup? s.key ≠ none ↔ .clearDirectory ∉ ms ∧ s.Stranded e c ms := by
  have enrolled := (Enrolled.of_establish established).after (e := e) (c := c) ms
  have none : (s.after e c ms).farewells = 0 := by
    rw [farewells, (enrolled.empty dead).1]
    rfl
  have registered : (s.after e c ms).isRegistered = true ↔ (s.after e c ms).directory.lookup? s.key ≠ .none := by
    rw [isRegistered, key_after, Directory.contains, Option.isSome_iff_ne_none]
  rw [← registered, enrolled.registered, gone, none]
  simp

/-- When a job crashes before the session is let go, the session is taken out at once. -/
theorem registered_iff_stranded_before :
    let c := Config.ofEndpoint "sensor" "broker" 1883 60
    let ms : List (Move Loopback) := [.order (.request .connectConfigured), .work, .crash, .order .letGo, .close]
    ∃ s engine,
      establish Loopback.engine true .empty [] c "sensor" [] .empty (.fresh [] [] 0) = (.ok s, engine) ∧
      (s.after Loopback.engine c ms).tornDown = true ∧ (s.after Loopback.engine c ms).queue.worker = .crashed ∧
      (s.after Loopback.engine c ms).directory.lookup? s.key = none ∧ ¬ s.Stranded Loopback.engine c ms := by
  refine ⟨_, _, rfl, rfl, rfl, rfl, fun stranded => ?_⟩
  refine (registered_iff_stranded (show establish Loopback.engine true .empty []
    (.ofEndpoint "sensor" "broker" 1883 60) "sensor" [] .empty (.fresh [] [] 0) = (.ok _, _) from rfl)
    [.order (.request .connectConfigured), .work, .crash, .order .letGo, .close] rfl nofun).mpr ⟨?_, stranded⟩ rfl
  simp

/-- A job that crashes after the session was let go leaves it in the directory for ever, and the application is told
what is reported for it. -/
theorem registered_of_stranded :
    let c := Config.ofEndpoint "sensor" "broker" 1883 60
    let ms : List (Move Loopback) := [.order (.request .connectConfigured), .work, .order .letGo, .close, .crash]
    ∃ s engine,
      establish Loopback.engine true .empty [] c "sensor" [.publish] .empty (.fresh [] [] 0) = (.ok s, engine) ∧
      (s.after Loopback.engine c ms).tornDown = true ∧ (s.after Loopback.engine c ms).queue.worker = .crashed ∧
      (s.after Loopback.engine c ms).directory.lookup? s.key ≠ none ∧
      ((s.after Loopback.engine c ms).hear (.publish 7)).journal = [.notice (.published 7)] :=
  ⟨_, _, rfl, rfl, rfl, nofun, rfl⟩

end Session

end BrokerSession
