import BrokerSession.Proofs.Session.Accesses

/-!
# How the calls of a crowd are settled

A call that is over has a ticket. A disconnect that found the session at rest has settled it at once. One that went
on has handed in a job, and the worker settles the ticket with what the engine answers to the disconnect; until then
the job waits, or is at work. Nobody else settles the ticket, and what is settled stays settled.

## Main definitions

* `Session.Distinct` - every ticket is settled at most once
* `Session.Besides` - what callers and bystanders leave as it is
* `Crowd.Skipped` - a disconnect that found the session at rest has succeeded
* `Session.Fate` - where the disconnect of a ticket stands
* `Crowd.Promised` - every disconnect that was handed in is on its way or settled

## Main results

* `Distinct.step`, `Skipped.step`, `Promised.step` - every step keeps this
-/

namespace BrokerSession

namespace Session

variable {σ : Type} {e : Engine σ} {c : Config}

/-! ## Tickets -/

/-- The tickets that are settled, and those that will be. -/
def tickets (s : Session σ) : List Ticket :=
  s.resolved.map Prod.fst ++ s.pending.filterMap (·.ticket)

/-- Whether every ticket is settled at most once, and was given out. -/
structure Distinct (s : Session σ) : Prop where
  nodup : s.tickets.Nodup
  drawn : ∀ k ∈ s.tickets, k < s.nextTicket

namespace Distinct

variable {s t : Session σ}

theorem draw (h : s.Distinct) (drawn : t.nextTicket = s.nextTicket + 1)
    (more : t.tickets.Perm (s.nextTicket :: s.tickets)) : t.Distinct := by
  refine ⟨more.nodup_iff.mpr (List.nodup_cons.mpr ⟨fun again => ?_, h.nodup⟩), fun k among => ?_⟩
  · exact absurd (h.drawn _ again) (Nat.lt_irrefl _)
  · rw [drawn]
    rcases List.mem_cons.mp (more.subset among) with rfl | old
    · exact Nat.lt_succ_self _
    · exact Nat.lt_succ_of_lt (h.drawn k old)

theorem keep (h : s.Distinct) (same : t.tickets = s.tickets) (drawn : t.nextTicket = s.nextTicket) :
    t.Distinct :=
  ⟨same ▸ h.nodup, fun k among => drawn ▸ h.drawn k (same ▸ among)⟩

theorem asked {task : Task} (h : s.Distinct) (asked : s.Asked task t) : t.Distinct := by
  cases asked with
  | taken taking =>
    refine h.draw rfl ?_
    simp only [tickets, pending, List.filterMap_append, ← List.append_assoc]
    exact List.perm_append_comm
  | refused closed journal =>
    refine h.draw rfl ?_
    simp only [tickets, pending, List.map_append, List.append_assoc]
    exact List.perm_middle

theorem workerStep (h : s.Distinct) (working : s.queue.active = s.exchange.map (·.job))
    (step : WorkerStep e s t) : t.Distinct := by
  refine h.keep ?_ (by cases step <;> rfl)
  cases step with
  | @dismiss job rest reply free alive waits dismissed =>
    rw [free] at working
    cases ticket : job.ticket <;>
      simp [tickets, pending, complete, resolve, WorkQueue.finish, working, waits, ticket]
  | @begin job rest cmd free alive waits opens =>
    rw [free] at working
    simp [tickets, pending, say, working, waits, List.filterMap_cons]
  | retire free alive empty closed => rfl
  | goOn busy answered follows => rfl
  | @finish x r engine reply busy answered follows =>
    rw [busy] at working
    cases ticket : x.job.ticket <;>
      simp [tickets, pending, complete, resolve, heed, WorkQueue.finish, working, ticket]

/-- A ticket that somebody waits for is not settled. -/
theorem resolution?_eq_none {job : Job} {k : Ticket} (h : s.Distinct) (remains : job ∈ s.pending)
    (numbered : job.ticket = some k) : s.resolution? k = none := by
  have apart := (List.nodup_append.mp h.nodup).2.2
  refine List.lookup_eq_none_iff.mpr fun entry settled => ?_
  have awaited : k ∈ s.pending.filterMap (·.ticket) := List.mem_filterMap.mpr ⟨job, remains, numbered⟩
  exact bne_iff_ne.mpr (apart _ (List.mem_map_of_mem settled) k awaited).symm

/-- Nor is one that nobody has drawn yet. -/
theorem resolution?_nextTicket (h : s.Distinct) : s.resolution? s.nextTicket = none := by
  refine List.lookup_eq_none_iff.mpr fun entry settled => bne_iff_ne.mpr fun same => ?_
  have drawn := h.drawn entry.1 (List.mem_append_left _ (List.mem_map_of_mem settled))
  exact absurd (same ▸ drawn) (Nat.lt_irrefl _)

end Distinct

theorem Distinct.step {w v : Crowd (Recorded σ)} {m : Crowd.Move (Recorded σ)} (h : w.session.Distinct)
    (accounted : w.Accounted) (step : w.Step e.recorded c m v) : v.session.Distinct := by
  cases step with
  | access calling step =>
    cases step with
    | claim | swap | move => exact h.keep rfl rfl
    | skip rests =>
      refine h.draw rfl ?_
      simp only [tickets, pending, List.map_append, List.append_assoc]
      exact List.perm_middle
    | submit asked => exact h.asked asked
  | ask apart asked => exact h.asked asked
  | work step => exact h.workerStep accounted.working step
  | crash =>
    rw [crash_frame]
    refine h.keep ?_ rfl
    simp [tickets, pending, abandoned, WorkQueue.crash, List.map_filterMap, Function.comp_def]
  | aside => exact h.keep rfl rfl

/-! ## What callers and bystanders leave as it is -/

/-- Nobody but the worker touches what was said and settled; others at most add to it. -/
structure Besides (s t : Session (Recorded σ)) : Prop where
  heard : t.engine.heard = s.engine.heard
  answered : t.engine.answered = s.engine.answered
  exchange : t.exchange = s.exchange
  worker : t.queue.worker = s.queue.worker
  backlog : s.queue.backlog <+: t.queue.backlog
  resolved : s.resolved <+: t.resolved

theorem Asked.besides {s t : Session (Recorded σ)} {task : Task} (asked : s.Asked task t) :
    s.Besides t := by
  cases asked with
  | taken taking => exact ⟨rfl, rfl, rfl, rfl, List.prefix_append .., List.prefix_rfl⟩
  | refused closed journal => exact ⟨rfl, rfl, rfl, rfl, List.prefix_rfl, List.prefix_append ..⟩

theorem Caller.Step.besides {k : Caller} {s t : Session (Recorded σ)} {access : Access} {stage : Stage}
    (step : k.Step s access stage t) : s.Besides t := by
  cases step with
  | claim | swap | move => exact ⟨rfl, rfl, rfl, rfl, List.prefix_rfl, List.prefix_rfl⟩
  | skip rests => exact ⟨rfl, rfl, rfl, rfl, List.prefix_rfl, List.prefix_append ..⟩
  | submit asked => exact asked.besides

namespace Crowd

variable {w v : Crowd (Recorded σ)}

/-- A step is the worker's, or a crash, or one besides. -/
theorem Step.besides {m : Move σ} (step : w.Step e.recorded c m.recorded v) :
    WorkerStep e.recorded w.session v.session ∨
      m = .session .crash ∧ v.session = w.session.crash e.recorded ∨
      w.session.Besides v.session := by
  generalize same : m.recorded = m' at step
  cases step with
  | access calling step => exact .inr (.inr step.besides)
  | ask apart asked => exact .inr (.inr asked.besides)
  | work step => exact .inl step
  | crash => exact .inr (.inl ⟨Move.eq_crash_of_recorded same, rfl⟩)
  | aside aside made =>
    obtain ⟨n, -, rfl⟩ := Move.exists_of_recorded same
    obtain ⟨heard, answered⟩ := record_of_aside aside made
    exact .inr (.inr ⟨heard, answered, rfl, rfl, List.prefix_rfl, List.prefix_rfl⟩)

end Crowd

theorem resolution?_stays {s t : Session σ} {k : Ticket} {r : Resolution}
    (more : s.resolved <+: t.resolved) (settled : s.resolution? k = some r) :
    t.resolution? k = some r := by
  obtain ⟨rest, eq⟩ := more
  rw [resolution?, ← eq, List.lookup_append, show s.resolved.lookup k = some r from settled]
  rfl

theorem resolution?_concat {s t : Session σ} {k : Ticket} {r : Resolution}
    (settled : t.resolved = s.resolved ++ [(k, r)]) (open_ : s.resolution? k = none) :
    t.resolution? k = some r := by
  rw [resolution?, settled, List.lookup_append, show s.resolved.lookup k = none from open_]
  simp

/-! ## Disconnects that are over at once -/

/-- Whether every disconnect that found the session at rest has succeeded. -/
def Crowd.Skipped (w : Crowd σ) : Prop :=
  ∀ i, (i, .swapRunning false) ∈ w.log → ∃ k, w.callers[i]? = some ⟨.disconnect, .returned k⟩ ∧
    w.session.resolution? k = some (.answered (.ofStatus .success))

theorem WorkerStep.resolved {s t : Session σ} (step : WorkerStep e s t) :
    s.resolved <+: t.resolved := by
  cases step with
  | dismiss | finish => exact List.prefix_append ..
  | begin | retire | goOn => exact List.prefix_rfl

/-- What is settled stays settled. -/
theorem Crowd.Step.resolved {w v : Crowd (Recorded σ)} {m : Crowd.Move σ}
    (step : w.Step e.recorded c m.recorded v) : w.session.resolved <+: v.session.resolved := by
  rcases step.besides with step | ⟨-, crashed⟩ | besides
  · exact step.resolved
  · rw [crashed, crash_frame]
    exact List.prefix_append ..
  · exact besides.resolved

theorem Crowd.Skipped.step {w v : Crowd (Recorded σ)} {m : Crowd.Move σ} (h : w.Skipped)
    (distinct : w.session.Distinct) (step : w.Step e.recorded c m.recorded v) : v.Skipped := by
  -- A call that was over stays over, and its ticket stays settled.
  have earlier {j : Nat} (old : (j, .swapRunning false) ∈ w.log) :
      ∃ k, v.callers[j]? = some ⟨.disconnect, .returned k⟩ ∧
        v.session.resolution? k = some (.answered (.ofStatus .success)) := by
    obtain ⟨k, ended, settled⟩ := h j old
    exact ⟨k, step.returned ended, resolution?_stays step.resolved settled⟩
  intro j among
  cases m with
  | session m => exact earlier (step.bystander.1 ▸ among)
  | access i =>
    cases step with
    | @access _ k access stage t calling step =>
      rcases List.mem_append.mp among with old | new
      · exact earlier old
      · obtain ⟨rfl, rfl⟩ := Prod.mk.inj (List.mem_singleton.mp new)
        cases step with
        | skip rests =>
          obtain ⟨inside, -⟩ := List.getElem?_eq_some_iff.mp calling
          exact ⟨_, List.getElem?_set_self inside, resolution?_concat rfl distinct.resolution?_nextTicket⟩

/-! ## Disconnects that go on -/

/-- Whether the engine has answered what it has heard, but for the last command if that is at work. -/
structure Spoken (s : Session (Recorded σ)) : Prop where
  free : s.exchange = none → s.engine.heard.length = s.engine.answered.length
  busy : ∀ x, s.exchange = some x → ∃ before, s.engine.heard = before ++ [x.command] ∧
    before.length = s.engine.answered.length

theorem Spoken.workerStep {s t : Session (Recorded σ)} (h : s.Spoken)
    (step : WorkerStep e.recorded s t) : t.Spoken := by
  cases step with
  | dismiss free alive waits dismissed => exact ⟨fun _ => h.free free, fun y again => by cases again⟩
  | begin free alive waits opens =>
    refine ⟨fun none => (by cases none), fun y new => ?_⟩
    obtain rfl := Option.some.inj new
    exact ⟨s.engine.heard, rfl, h.free free⟩
  | retire free alive empty closed => exact ⟨h.free, h.busy⟩
  | @goOn x r engine cmd earlier busy answered follows =>
    obtain ⟨inner, -, rfl⟩ := Engine.finish_of_recorded answered
    obtain ⟨before, heard, even⟩ := h.busy x busy
    refine ⟨fun none => (by cases none), fun y new => ?_⟩
    obtain rfl := Option.some.inj new
    exact ⟨s.engine.heard, rfl, by simp [heard, even, heed, say, Engine.recorded]⟩
  | @finish x r engine reply busy answered follows =>
    obtain ⟨inner, -, rfl⟩ := Engine.finish_of_recorded answered
    obtain ⟨before, heard, even⟩ := h.busy x busy
    exact ⟨fun _ => by simp [complete, resolve, heed, heard, even], fun y again => by cases again⟩

/-- What was said stays said. -/
theorem WorkerStep.record {s t : Session (Recorded σ)} (step : WorkerStep e.recorded s t) :
    s.engine.heard <+: t.engine.heard ∧ s.engine.answered <+: t.engine.answered := by
  cases step with
  | dismiss | retire => exact ⟨List.prefix_rfl, List.prefix_rfl⟩
  | begin => exact ⟨List.prefix_append .., List.prefix_rfl⟩
  | goOn busy answered follows =>
    obtain ⟨inner, -, rfl⟩ := Engine.finish_of_recorded answered
    exact ⟨List.prefix_append .., List.prefix_append ..⟩
  | finish busy answered follows =>
    obtain ⟨inner, -, rfl⟩ := Engine.finish_of_recorded answered
    exact ⟨List.prefix_rfl, List.prefix_append ..⟩

theorem getElem?_stays {α : Type} {l l' : List α} {n : Nat} {a : α} (more : l <+: l')
    (there : l[n]? = some a) : l'[n]? = some a := by
  obtain ⟨rest, rfl⟩ := more
  exact (List.getElem?_append_left (List.getElem?_eq_some_iff.mp there).1).trans there

/-- Where the disconnect of a ticket stands. -/
inductive Fate (k : Ticket) (s : Session (Recorded σ)) : Prop
  | waits (among : ⟨some k, .disconnect false⟩ ∈ s.queue.backlog)
  | asked {x : Exchange} (busy : s.exchange = some x) (job : x.job = ⟨some k, .disconnect false⟩)
      (first : x.command = .disconnect)
  /-- The engine has answered, and stops its loop. -/
  | stopping {x : Exchange} {n : Nat} {r : Reply} (busy : s.exchange = some x)
      (job : x.job = ⟨some k, .disconnect false⟩) (second : x.command = .stopLoop)
      (earlier : x.earlier = some r.status) (heard : s.engine.heard[n]? = some .disconnect)
      (answered : s.engine.answered[n]? = some r)
  | settled {n : Nat} {r : Reply} (heard : s.engine.heard[n]? = some .disconnect)
      (answered : s.engine.answered[n]? = some r)
      (told : s.resolution? k = some (.answered (.ofStatus r.status)))

namespace Fate

variable {s t : Session (Recorded σ)} {k : Ticket}

theorem besides (h : s.Fate k) (besides : s.Besides t) : t.Fate k := by
  cases h with
  | waits among => exact .waits (besides.backlog.subset among)
  | asked busy job first => exact .asked (besides.exchange.trans busy) job first
  | stopping busy job second earlier heard answered =>
    exact .stopping (besides.exchange.trans busy) job second earlier (besides.heard ▸ heard)
      (besides.answered ▸ answered)
  | settled heard answered told =>
    exact .settled (besides.heard ▸ heard) (besides.answered ▸ answered)
      (resolution?_stays besides.resolved told)

/-- The answer to the disconnect stands where the disconnect stands among what was heard. -/
theorem of_asked {x : Exchange} (spoken : s.Spoken) (busy : s.exchange = some x)
    (job : x.job = ⟨some k, .disconnect false⟩) (first : x.command = .disconnect)
    (step : WorkerStep e.recorded s t) : t.Fate k := by
  cases step with
  | dismiss free | begin free | retire free =>
    rw [busy] at free
    cases free
  | @goOn y r engine cmd earlier busy' answered follows =>
    obtain rfl := Option.some.inj (busy.symm.trans busy')
    obtain ⟨inner, -, rfl⟩ := Engine.finish_of_recorded answered
    obtain ⟨before, heard, even⟩ := spoken.busy x busy
    rcases Exchange.sequel_say follows with ⟨-, other⟩ | ⟨rfl, -, rfl⟩
    · exact absurd first other
    · refine .stopping (n := before.length) rfl job rfl rfl ?_ ?_
      · simp [say, heed, Engine.recorded, heard, first]
      · simp [say, heed, Engine.recorded, even]
  | @finish y r engine reply busy' answered follows =>
    obtain rfl := Option.some.inj (busy.symm.trans busy')
    simp [Exchange.sequel, first] at follows

/-- When the loop has stopped, the caller is told what the engine answered to the disconnect. -/
theorem of_stopping {x : Exchange} {n : Nat} {r : Reply} (unsettled : s.resolution? k = none)
    (busy : s.exchange = some x) (job : x.job = ⟨some k, .disconnect false⟩)
    (second : x.command = .stopLoop) (earlier : x.earlier = some r.status)
    (heard : s.engine.heard[n]? = some .disconnect) (answered : s.engine.answered[n]? = some r)
    (step : WorkerStep e.recorded s t) : t.Fate k := by
  cases step with
  | dismiss free | begin free | retire free =>
    rw [busy] at free
    cases free
  | @goOn y r' engine cmd earlier' busy' answered' follows =>
    obtain rfl := Option.some.inj (busy.symm.trans busy')
    simp [Exchange.sequel, second] at follows
  | @finish y r' engine reply busy' answered' follows =>
    obtain rfl := Option.some.inj (busy.symm.trans busy')
    obtain ⟨inner, -, rfl⟩ := Engine.finish_of_recorded answered'
    have reply_eq : Reply.ofStatus r.status = reply := by
      simpa [Exchange.sequel, second, earlier] using follows
    refine .settled (n := n) (r := r) ?_ ?_ ?_
    · simpa [complete, resolve, heed] using heard
    · exact getElem?_stays (List.prefix_append ..) answered
    · refine resolution?_concat ?_ unsettled
      simp [complete, resolve, heed, job, reply_eq]

theorem workerStep (h : s.Fate k) (spoken : s.Spoken) (distinct : s.Distinct)
    (working : s.queue.active = s.exchange.map (·.job)) (step : WorkerStep e.recorded s t) :
    t.Fate k := by
  cases h with
  | waits among =>
    cases step with
    | @dismiss job rest reply free alive waits dismissed =>
      rw [waits] at among
      rcases List.mem_cons.mp among with rfl | later
      · cases dismissed
      · exact .waits later
    | @begin job rest cmd free alive waits opens =>
      rw [waits] at among
      rcases List.mem_cons.mp among with rfl | later
      · -- Its turn has come.
        exact .asked rfl rfl (Opening.command.inj opens).symm
      · exact .waits later
    | retire | goOn | finish => exact .waits among
  | asked busy job first => exact of_asked spoken busy job first step
  | @stopping x n r busy job second earlier heard answered =>
    -- Its job is still at work, so nobody has settled the ticket.
    have remains : x.job ∈ s.pending := by
      rw [pending, working, busy]
      exact List.mem_cons_self
    have unsettled := distinct.resolution?_eq_none remains (congrArg Job.ticket job)
    exact of_stopping unsettled busy job second earlier heard answered step
  | settled heard answered told =>
    obtain ⟨said, got⟩ := step.record
    exact .settled (getElem?_stays said heard) (getElem?_stays got answered)
      (resolution?_stays step.resolved told)

end Fate

/-- Whether every disconnect that was handed in is on its way or settled. -/
structure Crowd.Promised (w : Crowd (Recorded σ)) : Prop where
  spoken : w.session.Spoken
  fate : ∀ i, (i, .enqueue (.disconnect false)) ∈ w.log →
    ∃ k, w.callers[i]? = some ⟨.disconnect, .returned k⟩ ∧ w.session.Fate k

theorem Spoken.besides {s t : Session (Recorded σ)} (h : s.Spoken) (besides : s.Besides t) :
    t.Spoken := by
  refine ⟨fun free => ?_, fun x busy => ?_⟩
  · rw [besides.heard, besides.answered]
    exact h.free (besides.exchange ▸ free)
  · rw [besides.heard, besides.answered]
    exact h.busy x (besides.exchange ▸ busy)

theorem Crowd.Promised.step {w v : Crowd (Recorded σ)} {m : Crowd.Move σ} (h : w.Promised)
    (accounted : w.Accounted) (alive : w.session.queue.worker = .alive) (distinct : w.session.Distinct)
    (sound : m ≠ .session .crash) (step : w.Step e.recorded c m.recorded v) : v.Promised := by
  have spoken : v.session.Spoken := by
    rcases step.besides with step | ⟨crash, -⟩ | besides
    · exact h.spoken.workerStep step
    · exact absurd crash sound
    · exact h.spoken.besides besides
  -- A disconnect that was handed in before keeps its ticket, whatever the step is.
  have earlier {j : Nat} (old : (j, .enqueue (.disconnect false)) ∈ w.log) :
      ∃ k, v.callers[j]? = some ⟨.disconnect, .returned k⟩ ∧ v.session.Fate k := by
    obtain ⟨k, ended, stands⟩ := h.fate j old
    refine ⟨k, step.returned ended, ?_⟩
    rcases step.besides with step | ⟨crash, -⟩ | besides
    · exact stands.workerStep h.spoken distinct accounted.working step
    · exact absurd crash sound
    · exact stands.besides besides
  refine ⟨spoken, fun j among => ?_⟩
  cases m with
  | session m => exact earlier (step.bystander.1 ▸ among)
  | access i =>
    cases step with
    | @access _ k access stage t calling step =>
      obtain ⟨inside, -⟩ := List.getElem?_eq_some_iff.mp calling
      rcases List.mem_append.mp among with old | new
      · exact earlier old
      · obtain ⟨rfl, handed⟩ := Prod.mk.inj (List.mem_singleton.mp new)
        cases step with
        | @submit steer _ asked =>
          have task : steer.task = .disconnect false := (Access.enqueue.inj handed).symm
          obtain rfl : steer = .disconnect := by cases steer <;> first | rfl | cases task
          refine ⟨_, List.getElem?_set_self inside, .waits ?_⟩
          cases asked with
          | taken taking => exact List.mem_append_right _ (List.mem_singleton_self _)
          | refused closed journal =>
            rw [accounted.isClosed.mpr alive] at closed
            cases closed
        | _ => cases handed

end Session

end BrokerSession
