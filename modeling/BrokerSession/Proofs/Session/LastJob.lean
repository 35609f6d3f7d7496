import BrokerSession.Proofs.Session.Registration
import BrokerSession.Proofs.Session.Replay

/-!
# The last job of a session

A session that is let go hands its worker a last job, behind everything that was asked for before: it lets the engine go
and takes the session out of the directory. No order comes behind it, so the worker that comes to it has done all the
others, and a session that is not in the directory any more has nothing left to do.

## Main definitions

* `Session.Closing` - the jobs of a session that was let go end with its last job

## Main results

* `Closing.move` - the last job stays behind all others
* `Enrolled.nil_of_unregistered` - a session that is not in the directory any more has nothing left to do
* `exists_last_command` - a session that is let go gives the command to let its engine go once, behind all others
-/

namespace BrokerSession

namespace Session

section

variable {σ : Type} {e : Engine σ} {c : Config} {s t : Session σ}

/-! ## What remains to be done -/

/-- A session that was let go is not meant to run, and its last job is behind all others. -/
structure Closing (s : Session σ) : Prop where
  rests : s.tornDown = true → s.standing.running = false
  last : s.tornDown = true → ∀ k ∈ s.pending.getLast?, k.task = .destroy

namespace Closing

theorem obey (h : s.Closing) (order : s.Orderly) (o : Order) : (s.obey c o).Closing := by
  cases here : s.tornDown with
  | true => rwa [obey_of_tornDown here]
  | false =>
    rw [obey_eq here (order.taking here)]
    cases o with
    | letGo =>
      refine ⟨fun _ => by simp [Order.runs], fun _ k last => ?_⟩
      cases running : s.standing.running <;>
        · simp only [pending, Order.jobs, Order.tasks, running, ← List.append_assoc] at last
          simp only [List.getLast?_append, List.map_cons, List.map_nil, if_true, Bool.false_eq_true, if_false] at last
          simp at last
          exact congrArg Job.task last.symm
    | request | mark =>
      constructor
      · intro gone
        cases gone
      · intro gone
        cases gone

/-- What remains ends as it did before. -/
theorem of_suffix (h : s.Closing) (same : t.tornDown = s.tornDown)
    (running : t.standing.running = s.standing.running) (behind : t.pending <:+ s.pending) : t.Closing := by
  refine ⟨fun gone => running.trans (h.rests (same ▸ gone)), fun gone k last => h.last (same ▸ gone) k ?_⟩
  obtain ⟨done, split⟩ := behind
  rw [← split, List.getLast?_append, last]
  rfl

theorem move {m : Move σ} (h : s.Closing) (order : s.Orderly) (sound : m ≠ .crash)
    (made : s.move? e c m = some t) : t.Closing := by
  cases m with
  | order o =>
    obtain rfl := Option.some.inj made
    exact h.obey order o
  | work =>
    have step := workerStep_of_workerStep? made
    exact h.of_suffix (by cases step <;> rfl) step.running (order.pending_suffix step)
  | crash => exact absurd rfl sound
  | _ =>
    obtain ⟨_, _, _, _, _, _, rfl⟩ := move?_frame made rfl
    exact ⟨h.rests, h.last⟩

end Closing

/-- Behind the job that lets the engine go there is none. -/
theorem Enrolled.nil_of_destroy {job : Job} {rest : List Job} (h : s.Enrolled False False) (closing : s.Closing)
    (remain : s.pending = job :: rest) (letsGo : job.task = .destroy) : s.tornDown = true ∧ rest = [] := by
  have gone := h.tornDown_of_farewells (farewells_pos_iff.mpr ⟨job, (remain ▸ List.mem_cons_self :), letsGo⟩)
  refine ⟨gone, ?_⟩
  by_contra more
  -- There would be two such jobs.
  obtain ⟨k, last⟩ := Option.isSome_iff_exists.mp (List.getLast?_isSome.mpr more)
  have same : s.pending.getLast? = some k := by
    rw [remain, List.getLast?_cons, last]
    rfl
  have two : 1 < s.farewells := by
    have one : 0 < rest.countP (·.task == .destroy) :=
      List.countP_pos_iff.mpr ⟨k, List.mem_of_getLast? last, by simpa using closing.last gone k same⟩
    rw [farewells, show s.abandoned = job :: rest from remain, List.countP_cons_of_pos (by simpa using letsGo)]
    omega
  have once := h.once
  rw [gone, if_pos rfl] at once
  omega

/-- A session that is not in the directory any more was let go, and has nothing left to do. -/
theorem Enrolled.nil_of_unregistered (h : s.Enrolled False False) (closing : s.Closing)
    (out : s.isRegistered = false) : s.tornDown = true ∧ s.pending = [] := by
  have none : ¬ (s.tornDown = false ∨ 0 < s.farewells) := by
    intro remains
    have registered := h.registered.mpr ⟨not_false, by simpa using remains⟩
    rw [out] at registered
    cases registered
  rw [not_or, Bool.not_eq_false] at none
  refine ⟨none.1, ?_⟩
  by_contra more
  obtain ⟨k, last⟩ := Option.isSome_iff_exists.mp (List.getLast?_isSome.mpr more)
  exact none.2 (farewells_pos_iff.mpr ⟨k, List.mem_of_getLast? last, closing.last none.1 k last⟩)

/-- A session that was let go and has nothing left to do is not in the directory any more. -/
theorem Enrolled.unregistered_of_isIdle (h : s.Enrolled False False) (gone : s.tornDown = true)
    (idle : s.queue.isIdle = true) : s.isRegistered = false := by
  obtain ⟨backlog, active⟩ := (WorkQueue.isIdle_iff _).mp idle
  have none : s.farewells = 0 := by simp [farewells, abandoned, backlog, active]
  simpa [gone, none] using h.registered

end

/-! ## What the orders of a session that is let go bring -/

section

variable {c : Config} {v : Loopback} {os : List Order}

theorem exists_order_of_mem_gather {β : Type} {f : Bool → Ticket → Order → List β} {running : Bool} {ticket : Ticket}
    {b : β} (among : b ∈ gather f running ticket os) : ∃ o ∈ os, ∃ running ticket, b ∈ f running ticket o := by
  induction os generalizing running ticket with
  | nil => cases among
  | cons o os ih =>
    rcases List.mem_append.mp among with first | later
    · exact ⟨o, List.mem_cons_self, running, ticket, first⟩
    · obtain ⟨o', behind, found⟩ := ih later
      exact ⟨o', List.mem_cons_of_mem _ behind, found⟩

/-- The job that lets the engine go is the last one, and the only one of its kind. -/
theorem exists_last_job (letsGo : os.any Order.isLetGo = true)
    (last : os.Pairwise fun earlier _ => earlier.isLetGo = false) :
    ∃ jobs job, gather (Order.jobs c) false 0 os = jobs ++ [job] ∧ job.task = .destroy ∧
      ∀ k ∈ jobs, k.task ≠ .destroy := by
  obtain ⟨o, among, gone⟩ := List.any_eq_true.mp letsGo
  obtain ⟨before, behind, rfl⟩ := List.append_of_mem among
  rw [List.pairwise_append, List.pairwise_cons] at last
  obtain ⟨-, ⟨final, -⟩, stays⟩ := last
  -- No order comes behind the one to let the session go.
  obtain rfl : behind = [] := by
    cases behind with
    | nil => rfl
    | cons next behind =>
      rw [final next List.mem_cons_self] at gone
      cases gone
  have others : ∀ k ∈ gather (Order.jobs c) false 0 before, k.task ≠ .destroy := by
    intro k brought
    obtain ⟨o', earlier, running, ticket, brought⟩ := exists_order_of_mem_gather brought
    obtain ⟨task, among, rfl⟩ := List.mem_map.mp brought
    rintro rfl
    exact Order.destroy_notMem_tasks (stays o' earlier o List.mem_cons_self) among
  rw [gather_concat]
  cases o with
  | letGo =>
    cases running : before.foldl Order.runs false with
    | false => exact ⟨_, _, rfl, rfl, others⟩
    | true =>
      refine ⟨gather (Order.jobs c) false 0 before ++ [⟨some (drawn false 0 before), .disconnect true⟩],
        ⟨none, .destroy⟩, by simp [Order.jobs, Order.tasks], rfl, ?_⟩
      exact List.forall_mem_append.mpr ⟨others, by simp⟩
  | _ => cases gone

/-- The commands of a session that is let go end with the one that lets its engine go, which is given once. -/
theorem exists_last_command (letsGo : os.any Order.isLetGo = true)
    (last : os.Pairwise fun earlier _ => earlier.isLetGo = false) :
    ∃ before, ((script c v os).flatMap fun d => d.1.task.block d.2) = before ++ [.destroy] ∧
      Command.destroy ∉ before := by
  obtain ⟨jobs, job, split, ends, others⟩ := exists_last_job (c := c) letsGo last
  refine ⟨(v.tally jobs).flatMap fun d => d.1.task.block d.2, ?_, fun among => ?_⟩
  · rw [script, split, Loopback.tally_append, List.flatMap_append]
    simp [Loopback.tally, ends, Task.block]
  · obtain ⟨d, done, among⟩ := List.mem_flatMap.mp among
    have earlier : d.1 ∈ jobs := by
      rw [← Loopback.tally_map_fst v jobs]
      exact List.mem_map_of_mem done
    exact Task.destroy_notMem_block (others d.1 earlier) among

end

end Session

end BrokerSession
