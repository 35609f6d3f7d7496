import BrokerSession.Proofs.Session.Orderly

/-!
# The tickets of the jobs that remain

The jobs that remain change in two ways only: the worker is done with the first of them, and an order brings
new ones at the end, under a ticket that was never given out before. So whoever holds a ticket knows what is
done under it, and the step that settles it is the one in which the worker is done with that job.

## Main definitions

* `Session.Numbered` - every ticket of a job that remains was given out
* `Session.Awaits` - what remains under a ticket is a connect

## Main results

* `pending_move?` - how the jobs that remain change
* `ticket_of_complete` - a job that is done settles its own ticket and no other
* `Awaits.settle` - the step that settles the ticket of a connect
-/

namespace BrokerSession

namespace Session

variable {σ : Type} {e : Engine σ} {c : Config} {s t : Session σ} {m : Move σ} {k : Ticket}
  {reply : Reply}

/-- A move takes at most the first of the jobs that remain, or is an order that brings more of them. -/
theorem pending_move? (order : s.Orderly) (sound : m ≠ .crash) (made : s.move? e c m = some t) :
    (t.pending <:+ s.pending ∧ t.nextTicket = s.nextTicket) ∨
      ∃ o, m = .order o ∧
        t.pending = s.pending ++ o.jobs c s.standing.running s.nextTicket ∧
        t.nextTicket = s.nextTicket + o.draws s.standing.running := by
  cases m with
  | order o =>
    obtain rfl := Option.some.inj made
    cases here : s.tornDown with
    | true => exact .inl (by rw [obey_of_tornDown here]; exact ⟨List.suffix_rfl, rfl⟩)
    | false =>
      rw [obey_eq here (order.taking here)]
      exact .inr ⟨o, rfl, (List.append_assoc ..).symm, rfl⟩
  | work =>
    have step := workerStep_of_workerStep? made
    refine .inl ⟨order.pending_suffix step, ?_⟩
    cases step <;> rfl
  | crash => exact absurd rfl sound
  | _ =>
    obtain ⟨_, _, _, _, _, _, rfl⟩ := move?_frame made rfl
    exact .inl ⟨List.suffix_rfl, rfl⟩

/-! ## Tickets that were given out -/

/-- The jobs of an order have the ticket that it draws. -/
theorem Order.ticket_of_mem_jobs {o : Order} {running : Bool} {ticket : Ticket} {j : Job}
    (new : j ∈ o.jobs c running ticket) (numbered : j.ticket = some k) :
    k = ticket ∧ 0 < o.draws running := by
  cases o with
  | request op =>
    cases op <;> simp only [jobs, tasks] at new <;> grind [draws]
  | mark => simp only [jobs, tasks] at new; grind [draws]
  | letGo => simp only [jobs, tasks] at new; grind [draws]

/-- Whether every ticket of a job that remains was given out. -/
def Numbered (s : Session σ) : Prop := ∀ j ∈ s.pending, ∀ k, j.ticket = some k → k < s.nextTicket

theorem numbered_of_establish {hosted : Bool} {fs : Files} {env : Environment} {clientId : String}
    {wanted : List Notice.Kind} {directory : Directory Listener} {engine engine' : σ}
    (established : establish e hosted fs env c clientId wanted directory engine = (.ok s, engine')) :
    s.Numbered := by
  obtain ⟨staged, -, rfl⟩ := establish_eq_ok established
  exact fun j remains => nomatch remains

theorem Numbered.move (h : s.Numbered) (order : s.Orderly) (sound : m ≠ .crash)
    (made : s.move? e c m = some t) : t.Numbered := by
  intro j remains i numbered
  rcases pending_move? order sound made with ⟨behind, same⟩ | ⟨o, -, more, drawn⟩
  · rw [same]
    exact h j (behind.subset remains) i numbered
  · rw [more] at remains
    rw [drawn]
    rcases List.mem_append.mp remains with old | new
    · exact Nat.lt_add_right _ (h j old i numbered)
    · obtain ⟨rfl, draws⟩ := Order.ticket_of_mem_jobs new numbered
      exact Nat.lt_add_of_pos_right draws

theorem Numbered.after {ms : List (Move σ)} (h : s.Numbered) (order : s.Orderly)
    (sound : .crash ∉ ms) : (s.after e c ms).Numbered := by
  refine (after_induction (P := fun u => u.Orderly ∧ u.Numbered) ⟨order, h⟩ ?_).2
  intro t ⟨order, numbered⟩ m among u made
  have fine : m ≠ .crash := fun crash => sound (crash ▸ among)
  exact ⟨order.move fine made, numbered.move order fine made⟩

/-! ## A connect that is awaited -/

/-- Whether a ticket was given out, and what remains under it is a connect. -/
structure Awaits (k : Ticket) (s : Session σ) : Prop where
  order : s.Orderly
  drawn : k < s.nextTicket
  connect : ∀ j ∈ s.pending, j.ticket = some k → j.task.connects = true

/-- The jobs of an order are connects if the order asks for a connection, and only then. -/
theorem Order.connects_of_mem_jobs {o : Order} {running : Bool} {ticket : Ticket} {j : Job}
    (new : j ∈ o.jobs c running ticket) : j.task.connects = o.connects := by
  obtain ⟨task, among, rfl⟩ := List.mem_map.mp new
  cases o with
  | request op => cases op <;> simp only [tasks] at among <;> grind [connects, Task.connects]
  | mark => simp only [tasks] at among; grind [connects, Task.connects]
  | letGo => simp only [tasks] at among; grind [connects, Task.connects]

/-- A job that is done settles its own ticket and no other. -/
theorem ticket_of_complete {j : Job} {answer : Reply}
    (settled : (s.complete j answer).resolution? k = some (.answered reply))
    (unsettled : s.resolution? k = none) : j.ticket = some k ∧ answer = reply := by
  simp only [resolution?] at unsettled
  simp only [complete, resolve, resolution?, List.lookup_append, unsettled] at settled
  cases ticket : j.ticket with
  | none => simp [ticket] at settled
  | some i =>
    by_cases same : k = i
    · subst same
      simpa [ticket] using settled
    · have other : (k == i) = false := beq_false_of_ne same
      simp [ticket, List.lookup_cons, other] at settled

namespace Awaits

/-- An order that asks for a connection awaits it under the ticket that it draws. -/
theorem of_obey {o : Order} (numbered : s.Numbered) (order : s.Orderly) (present : s.tornDown = false)
    (asks : o.connects = true) : (s.obey c o).Awaits s.nextTicket := by
  refine ⟨order.obey o, ?_, fun j remains same => ?_⟩
  · rw [obey_eq present (order.taking present)]
    have draws : o.draws s.standing.running = 1 := by
      cases o with
      | letGo => cases asks
      | _ => rfl
    rw [draws]
    exact Nat.lt_succ_self _
  · -- The ticket is fresh, so that of all jobs that remain only the new one can have it.
    rw [obey_eq present (order.taking present)] at remains
    simp only [pending, ← List.append_assoc] at remains
    rcases List.mem_append.mp remains with old | new
    · exact absurd (numbered j old _ same) (Nat.lt_irrefl _)
    · exact (Order.connects_of_mem_jobs new).trans asks

theorem move (h : s.Awaits k) (sound : m ≠ .crash) (made : s.move? e c m = some t) : t.Awaits k := by
  rcases pending_move? h.order sound made with ⟨behind, same⟩ | ⟨o, -, more, drawn⟩
  · refine ⟨h.order.move sound made, same ▸ h.drawn, fun j remains => ?_⟩
    exact h.connect j (behind.subset remains)
  · refine ⟨h.order.move sound made, drawn ▸ Nat.lt_add_right _ h.drawn, fun j remains same => ?_⟩
    rw [more] at remains
    rcases List.mem_append.mp remains with old | new
    · exact h.connect j old same
    · -- A later order has a later ticket.
      obtain ⟨rfl, -⟩ := Order.ticket_of_mem_jobs new same
      exact absurd h.drawn (Nat.lt_irrefl _)

theorem after {ms : List (Move σ)} (h : s.Awaits k) (sound : .crash ∉ ms) : (s.after e c ms).Awaits k :=
  after_induction h fun _ ht _ hm _ made => ht.move (fun crash => sound (crash ▸ hm)) made

/-- The step that settles the ticket of a connect is the one in which the worker takes up the last answer to
it. -/
theorem settle (h : s.Awaits k) (step : WorkerStep e s t) (unsettled : s.resolution? k = none)
    (settled : t.resolution? k = some (.answered reply)) :
    ∃ x r, s.exchange = some x ∧ x.job.task.connects = true ∧
      e.finish s.engine s.clock x.command = some (r, t.engine) ∧ x.sequel r = .done reply ∧
      t.standing = x.standing r s.standing := by
  have untouched (same : t.resolved = s.resolved) : False := by
    rw [resolution?, same, ← resolution?, unsettled] at settled
    cases settled
  -- Steps that complete no job settle nothing, and what the engine never hears of is no connect.
  cases step with
  | @dismiss job rest reply free alive waits dismissed =>
    obtain ⟨ticket, -⟩ := ticket_of_complete settled unsettled
    have remains : job ∈ s.pending := by
      rw [h.order.pending_of_free free, waits]
      exact List.mem_cons_self
    have connects := h.connect job remains ticket
    rw [(Task.links_of_dismissal? dismissed).1] at connects
    cases connects
  | begin => exact (untouched rfl).elim
  | retire => exact (untouched rfl).elim
  | goOn => exact (untouched rfl).elim
  | @finish x r engine answer busy answered follows =>
    obtain ⟨ticket, rfl⟩ := ticket_of_complete settled unsettled
    have remains : x.job ∈ s.pending := by
      rw [h.order.pending_of_busy busy]
      exact List.mem_cons_self
    have connects := h.connect x.job remains ticket
    exact ⟨x, r, busy, connects, answered, follows, rfl⟩

end Awaits

end Session

end BrokerSession
