import BrokerSession.Loopback
import BrokerSession.Proofs.Session.Settling
import Mathlib.Algebra.BigOperators.Group.Finset.Piecewise
import Mathlib.Algebra.Order.BigOperators.Group.Finset

/-!
# Disconnects of several callers

However the calls of several callers fall, a request for a connection is undone at most once. A disconnect goes on
only if it finds that the session is meant to run, and then nobody else does until the next connect. The others are
over at once, and succeed. So after a single connect, of any number of disconnects exactly one reaches the engine,
and its caller is told what the engine answers.

## Main definitions

* `Session.Paced` - every disconnect is followed by a stop of the loop, as far as the worker has come
* `Crowd.Heeded` - what holds of the disconnects of a crowd

## Main results

* `Logged.count_disconnect_le` - no more disconnects than requests for a connection
* `Logged.exists_disconnect` - of several disconnects after a single connect exactly one goes on
* `disconnects_of_callers` - the disconnects of any number of callers
-/

namespace BrokerSession

namespace Session

variable {σ : Type} {e : Engine σ} {c : Config}

/-! ## Counting accesses -/

theorem countP_accesses {log : List (Nat × Access)} {n : Nat} (named : ∀ entry ∈ log, entry.1 < n)
    (p : Access → Bool) :
    (log.map Prod.snd).countP p = ∑ i ∈ Finset.range n, (accessesOf log i).countP p := by
  induction log using List.reverseRecOn with
  | nil => simp [accessesOf]
  | append_singleton log entry ih =>
    obtain ⟨j, access⟩ := entry
    have before := ih fun entry among => named entry (List.mem_append_left _ among)
    have inside : j < n := named (j, access) (List.mem_append_right _ (List.mem_singleton_self _))
    -- The new access belongs to one of the callers.
    have split (i : Nat) : (accessesOf (log ++ [(j, access)]) i).countP p =
        (accessesOf log i).countP p + if j = i then [access].countP p else 0 := by
      rw [accessesOf_concat]
      split
      · rw [List.countP_append]
      · rfl
    simp only [split, Finset.sum_add_distrib, Finset.sum_ite_eq, Finset.mem_range, inside, if_true,
      List.map_append, List.map_cons, List.map_nil, List.countP_append, before]

theorem count_of_single {log : List (Nat × Access)} {access : Access} {j : Nat}
    (single : ∀ entry ∈ log, entry.2 = access → entry.1 = j) :
    (log.map Prod.snd).count access = (accessesOf log j).count access := by
  change (log.map Prod.snd).countP (· == access) = (accessesOf log j).countP (· == access)
  rw [accessesOf, List.countP_map, List.countP_map, List.countP_filter]
  refine List.countP_congr fun entry among => ?_
  have own := single entry among
  simpa using own

/-- What no caller does more often than something else, they all together do not either. -/
theorem Crowd.Traced.countP_le {w : Crowd σ} {steers : List Steer} (h : w.Traced steers)
    {p q : Access → Bool}
    (each : ∀ (k : Caller) as, k.steer ∈ steers → k.Path as → as.countP p ≤ as.countP q) :
    (w.log.map Prod.snd).countP p ≤ (w.log.map Prod.snd).countP q := by
  rw [countP_accesses h.named, countP_accesses h.named]
  refine Finset.sum_le_sum fun i inside => ?_
  obtain ⟨k, calls⟩ : ∃ k, w.callers[i]? = some k :=
    ⟨_, List.getElem?_eq_getElem (Finset.mem_range.mp inside)⟩
  exact each k _ (List.mem_of_getElem? (h.steer_of_getElem? calls)) (h.path i k calls)

theorem count_requested (log : List (Nat × Access)) (cmd : Command) :
    (requested log).count cmd = (log.map Prod.snd).countP (·.steering? = some cmd) := by
  induction log using List.reverseRecOn with
  | nil => rfl
  | append_singleton log entry ih =>
    rw [requested_concat, List.count_append, ih, List.map_append, List.countP_append]
    cases named : entry.2.steering? with
    | none => simp [named]
    | some other => by_cases same : other = cmd <;> simp [named, same]

/-- A call hands in a disconnect only after it has found the session running. -/
theorem Caller.Path.countP_disconnect_le {k : Caller} {as : List Access} (path : k.Path as) :
    as.countP (·.steering? = some .disconnect) ≤ as.count (.swapRunning true) := by
  obtain ⟨steer, stage⟩ := k
  cases stage with
  | entered =>
    obtain rfl : as = [] := path
    rfl
  | claimed | moved =>
    obtain rfl := path
    cases steer <;> simp [Steer.claim, Access.steering?]
  | returned ticket =>
    rcases path with rfl | ⟨-, rfl⟩
    · cases steer <;> simp [Steer.claim, Access.steering?, Steer.task, Task.steering?]
    · simp [Access.steering?]

theorem Caller.Path.count_setRunning_le {k : Caller} {as : List Access} (path : k.Path as) :
    as.count .setRunning ≤ 1 := by
  obtain ⟨steer, stage⟩ := k
  cases stage with
  | entered =>
    obtain rfl : as = [] := path
    exact Nat.zero_le _
  | claimed | moved =>
    obtain rfl := path
    cases steer <;> simp [Steer.claim]
  | returned ticket =>
    rcases path with rfl | ⟨-, rfl⟩
    · cases steer <;> simp [Steer.claim]
    · simp

/-- No more disconnects reach the engine than connections were asked for. -/
theorem Crowd.Logged.count_disconnect_le {w : Crowd (Recorded σ)} {steers : List Steer}
    (h : w.Logged steers) :
    w.session.engine.heard.count .disconnect ≤ (w.log.map Prod.snd).count .setRunning := by
  have heard : w.session.engine.heard.count .disconnect ≤ w.session.steering.count .disconnect := by
    rw [steering, List.count_append, List.count_filter rfl]
    exact Nat.le_add_right _ _
  have claimed := h.flagged.truthful.count_le
  have handed : (w.log.map Prod.snd).countP (·.steering? = some .disconnect) ≤
      (w.log.map Prod.snd).count (.swapRunning true) :=
    h.traced.countP_le fun k as _ path => path.countP_disconnect_le
  calc w.session.engine.heard.count .disconnect
      ≤ w.session.steering.count .disconnect := heard
    _ ≤ (requested w.log).count .disconnect := h.accounted.handed.count_le _
    _ = (w.log.map Prod.snd).countP (·.steering? = some .disconnect) := count_requested ..
    _ ≤ (w.log.map Prod.snd).count (.swapRunning true) := handed
    _ ≤ (w.log.map Prod.snd).count .setRunning := Nat.le_of_add_right_le claimed

/-! ## The loop stops after a disconnect -/

/-- Every disconnect but the one at work was followed by a stop of the loop; a crash can cut off one. -/
def Paced (s : Session (Recorded σ)) : Prop :=
  ∃ lost, s.engine.heard.count .stopLoop + s.said.toList.count .disconnect + lost =
      s.engine.heard.count .disconnect ∧
    (s.queue.worker = .alive → lost = 0)

theorem Paced.workerStep {s t : Session (Recorded σ)} (h : s.Paced)
    (accepting : s.queue.accepting = true) (step : WorkerStep e.recorded s t) : t.Paced := by
  obtain ⟨lost, paced, none⟩ := h
  have worker := (step.worker accepting).2
  refine ⟨lost, ?_, fun alive => none (worker ▸ alive)⟩
  clear none worker
  cases step with
  | dismiss free alive waits dismissed =>
    rw [said_of_free free] at paced
    exact paced
  | @begin job rest cmd free alive waits opens =>
    have other : cmd ≠ .stopLoop := (Task.opening_ne_loop opens).2
    rw [said_of_free free] at paced
    simp only [say, Engine.recorded, said, Option.map_some, List.count_append] at paced ⊢
    simp [List.count_singleton, other] at paced ⊢
    omega
  | retire free alive empty closed =>
    rw [accepting] at closed
    cases closed
  | @goOn x r engine cmd earlier busy answered follows =>
    obtain ⟨inner, -, rfl⟩ := Engine.finish_of_recorded answered
    rw [said_of_busy busy] at paced
    simp only [say, heed, Engine.recorded, said, Option.map_some, List.count_append] at paced ⊢
    -- Either a loop is started after a connect, or the disconnect gets its stop.
    rcases Exchange.sequel_say follows with ⟨rfl, other⟩ | ⟨rfl, same, -⟩
    · simp [other] at paced ⊢
      omega
    · simp [same] at paced ⊢
      omega
  | @finish x r engine reply busy answered follows =>
    obtain ⟨inner, -, rfl⟩ := Engine.finish_of_recorded answered
    rw [said_of_busy busy] at paced
    -- A disconnect is not the last command of its job.
    have other : x.command ≠ .disconnect := by
      intro same
      simp [Exchange.sequel, same] at follows
    simp only [complete, resolve, heed, said, Option.map_none] at paced ⊢
    simp [other] at paced ⊢
    omega

theorem Paced.besides {s t : Session (Recorded σ)} (h : s.Paced) (besides : s.Besides t) : t.Paced := by
  obtain ⟨lost, paced, none⟩ := h
  refine ⟨lost, ?_, fun alive => none (besides.worker ▸ alive)⟩
  rw [said, besides.exchange, besides.heard]
  exact paced

theorem Paced.step {w v : Crowd (Recorded σ)} {m : Crowd.Move σ} (h : w.session.Paced)
    (accounted : w.Accounted) (step : w.Step e.recorded c m.recorded v) : v.session.Paced := by
  rcases step.besides with step | ⟨-, crashed⟩ | besides
  · exact h.workerStep accounted.accepting step
  · -- The disconnect that is at work is cut off from its stop.
    obtain ⟨lost, paced, -⟩ := h
    rw [crashed, crash_frame]
    exact ⟨w.session.said.toList.count .disconnect + lost, by simpa [said, Engine.recorded, Nat.add_assoc]
      using paced, nofun⟩
  · exact h.besides besides

/-! ## One request, several disconnects -/

theorem exists_split {α : Type} {l : List α} {x y : α} (first : x ∈ l) (second : y ∈ l) (other : x ≠ y) :
    ∃ before between after, l = before ++ x :: (between ++ y :: after) ∨
      l = before ++ y :: (between ++ x :: after) := by
  obtain ⟨before, after, rfl⟩ := List.append_of_mem first
  rcases List.mem_append.mp second with earlier | rest
  · obtain ⟨before, between, rfl⟩ := List.append_of_mem earlier
    exact ⟨before, between, after, .inr (by rw [List.append_assoc, List.cons_append])⟩
  · obtain ⟨between, after, rfl⟩ :=
      List.append_of_mem ((List.mem_cons.mp rest).resolve_left other.symm)
    exact ⟨before, between, after, .inl rfl⟩

namespace Crowd.Logged

variable {w : Crowd (Recorded σ)} {steers : List Steer} {i j : Nat}

/-- Who hands in a disconnect has found the session running. -/
theorem swapRunning_mem (h : w.Logged steers) (handed : (i, .enqueue (.disconnect false)) ∈ w.log) :
    (i, .swapRunning true) ∈ w.log := by
  obtain ⟨steer, -, own⟩ := h.traced.mem handed
  rcases own with own | ⟨claimed, own | own | own⟩
  · cases own
  · cases steer <;> cases own
  · cases own
  · cases steer <;> first | exact claimed | cases own

/-- Between the disconnects of two callers somebody asks for a connection. -/
theorem setRunning_between (h : w.Logged steers) (other : i ≠ j)
    (first : (i, .enqueue (.disconnect false)) ∈ w.log)
    (second : (j, .enqueue (.disconnect false)) ∈ w.log) :
    ∃ before between after k,
      (w.log = before ++ (i, .swapRunning true) :: (between ++ (j, .swapRunning true) :: after) ∨
        w.log = before ++ (j, .swapRunning true) :: (between ++ (i, .swapRunning true) :: after)) ∧
      (k, .setRunning) ∈ between := by
  obtain ⟨before, between, after, split⟩ := exists_split (h.swapRunning_mem first)
    (h.swapRunning_mem second) fun same => other (Prod.mk.inj same).1
  rcases split with split | split
  · obtain ⟨k, asked⟩ := h.flagged.truthful.setRunning_between split
    exact ⟨before, between, after, k, .inl split, asked⟩
  · obtain ⟨k, asked⟩ := h.flagged.truthful.setRunning_between split
    exact ⟨before, between, after, k, .inr split, asked⟩

end Crowd.Logged

/-- A request for a connection keeps the session running until a disconnect finds it so. -/
theorem Truthful.swapRunning_mem {log : List (Nat × Access)} {k : Nat} (h : Truthful log)
    (asked : (k, .setRunning) ∈ log) :
    flagged log = true ∨ ∃ j, (j, .swapRunning true) ∈ log := by
  induction log using List.reverseRecOn with
  | nil => cases asked
  | append_singleton log entry ih =>
    obtain ⟨i, access⟩ := entry
    rw [flagged_concat]
    have before (old : (k, .setRunning) ∈ log) :
        flagged log = true ∨ ∃ j, (j, .swapRunning true) ∈ log ++ [(i, access)] := by
      refine (ih h.of_append old).imp_right ?_
      rintro ⟨j, found⟩
      exact ⟨j, List.mem_append_left _ found⟩
    cases access with
    | setRunning => exact .inl rfl
    | swapRunning was =>
      have old : (k, .setRunning) ∈ log := by simpa using asked
      cases was with
      | true => exact .inr ⟨i, List.mem_append_right _ (List.mem_singleton_self _)⟩
      | false =>
        have rests : false = flagged log := h log i false [] rfl
        exact .inr ((before old).resolve_left (by simp [← rests]))
    | setPhase phase | enqueue task => exact before (by simpa using asked)

/-- After a request for a connection, whoever finds the session at rest comes after a disconnect that goes on. -/
theorem Truthful.swapRunning_before {log : List (Nat × Access)} {i k : Nat} (h : Truthful log)
    (head : log.head? = some (k, .setRunning)) (skipped : (i, .swapRunning false) ∈ log) :
    ∃ j, (j, .swapRunning true) ∈ log := by
  obtain ⟨before, after, rfl⟩ := List.append_of_mem skipped
  have rests : false = flagged before := h before i false after rfl
  have asked : (k, .setRunning) ∈ before := by
    cases before with
    | nil => cases head
    | cons entry before =>
      obtain rfl : entry = (k, .setRunning) := Option.some.inj head
      exact List.mem_cons_self
  obtain ⟨j, claimed⟩ := (h.of_append.swapRunning_mem asked).resolve_left (by simp [← rests])
  exact ⟨j, List.mem_append_left _ claimed⟩

namespace Crowd.Logged

variable {w : Crowd (Recorded σ)} {first : Steer} {n : Nat}

/-- Only the first call asks for a connection. -/
theorem claim_eq (h : w.Logged (first :: List.replicate n .disconnect)) {i : Nat} {access : Access}
    (among : (i, access) ∈ w.log) (claims : access = .setRunning ∨ access = .swapRunning true) :
    i = 0 ∧ access = first.claim ∨ 0 < i ∧ access = .swapRunning true := by
  obtain ⟨steer, who, own⟩ := h.traced.mem among
  have claim : access = steer.claim := by
    rcases own with rfl | ⟨-, rfl | rfl | rfl⟩
    · simp at claims
    · rfl
    · simp at claims
    · simp at claims
  cases i with
  | zero =>
    obtain rfl : first = steer := Option.some.inj who
    exact .inl ⟨rfl, claim⟩
  | succ i =>
    obtain ⟨-, rfl⟩ : i < n ∧ Steer.disconnect = steer := by
      simpa [List.getElem?_replicate] using who
    exact .inr ⟨Nat.succ_pos i, claim⟩

/-- A single call asks for a connection at most once. -/
theorem count_setRunning_le (h : w.Logged (first :: List.replicate n .disconnect)) :
    (w.log.map Prod.snd).count .setRunning ≤ 1 := by
  have inside : 0 < w.callers.length := by
    rw [h.traced.length_callers]
    exact Nat.succ_pos _
  have only : ∀ entry ∈ w.log, entry.2 = .setRunning → entry.1 = 0 := by
    rintro ⟨i, access⟩ among asked
    rcases h.claim_eq among (.inl asked) with ⟨zero, -⟩ | ⟨-, swaps⟩
    · exact zero
    · cases asked.symm.trans swaps
  rw [count_of_single only]
  exact (h.traced.path 0 _ (List.getElem?_eq_getElem inside)).count_setRunning_le

/-- Only one disconnect goes on. -/
theorem swapRunning_unique (h : w.Logged (first :: List.replicate n .disconnect)) {i j : Nat}
    (one : (i, .swapRunning true) ∈ w.log) (another : (j, .swapRunning true) ∈ w.log) : i = j := by
  by_contra other
  -- Two of them would have used up two requests, and the first call has made one.
  have twice : 2 ≤ (w.log.map Prod.snd).count (.swapRunning true) := by
    obtain ⟨before, between, after, split⟩ := exists_split one another fun same =>
      other (Prod.mk.inj same).1
    rcases split with split | split <;> rw [split] <;> simp <;> omega
  have once := h.flagged.truthful.count_le
  have asked := h.count_setRunning_le
  omega

/-- A disconnect that is over has gone on, or found the session at rest. -/
theorem disconnect_ended (h : w.Logged (first :: List.replicate n .disconnect))
    (ended : w.callers.all (·.stage.isReturned) = true) {i : Nat} (later : 0 < i) (inside : i ≤ n) :
    (i, .swapRunning true) ∈ w.log ∧ (i, .enqueue (.disconnect false)) ∈ w.log ∨
      (i, .swapRunning false) ∈ w.log ∧ (i, .swapRunning true) ∉ w.log := by
  have length := h.traced.length_callers
  simp only [List.length_cons, List.length_replicate] at length
  obtain ⟨k, calls⟩ : ∃ k, w.callers[i]? = some k := ⟨_, List.getElem?_eq_getElem (by omega)⟩
  have returned : k.stage.isReturned = true :=
    List.all_eq_true.mp ended k (List.mem_of_getElem? calls)
  have path := h.traced.path i k calls
  have steer : k.steer = .disconnect := by
    have who := h.traced.steer_of_getElem? calls
    obtain ⟨i, rfl⟩ := Nat.exists_eq_succ_of_ne_zero (Nat.pos_iff_ne_zero.mp later)
    have there : i < n ∧ Steer.disconnect = k.steer := by
      simpa [List.getElem?_replicate] using who
    exact there.2.symm
  obtain ⟨steer', stage⟩ := k
  obtain rfl : steer' = .disconnect := steer
  cases stage with
  | returned ticket =>
    -- A disconnect takes one of two paths, and each says which accesses it has made.
    rcases path with whole | ⟨-, skipped⟩
    · refine .inl ⟨mem_accessesOf.mp ?_, mem_accessesOf.mp ?_⟩
      · rw [whole]
        exact List.mem_cons_self
      · rw [whole]
        simp [Steer.task]
    · refine .inr ⟨mem_accessesOf.mp ?_, fun claimed => ?_⟩
      · rw [skipped]
        exact List.mem_singleton_self _
      · have only := mem_accessesOf.mpr claimed
        rw [skipped] at only
        simp at only
  | _ => cases returned

/-- Of several disconnects after a single connect exactly one goes on. -/
theorem exists_disconnect (h : w.Logged (first :: List.replicate (n + 1) .disconnect))
    (asks : first.asks = true) (head : w.log.head? = some (0, .setRunning))
    (ended : w.callers.all (·.stage.isReturned) = true) :
    ∃ j, 0 < j ∧ j ≤ n + 1 ∧ (j, .enqueue (.disconnect false)) ∈ w.log ∧
      ∀ i, 0 < i → i ≤ n + 1 → i ≠ j → (i, .swapRunning false) ∈ w.log := by
  -- The first of them to look finds the session running, for the connect has come before.
  have found : ∃ j, (j, .swapRunning true) ∈ w.log := by
    rcases h.disconnect_ended ended (i := 1) Nat.one_pos (by omega) with ⟨claimed, -⟩ | ⟨skipped, -⟩
    · exact ⟨1, claimed⟩
    · exact h.flagged.truthful.swapRunning_before head skipped
  obtain ⟨j, claimed⟩ := found
  -- It is not the connect that has claimed the session, so it is one of the disconnects.
  have later : 0 < j := by
    rcases h.claim_eq claimed (.inr rfl) with ⟨-, same⟩ | ⟨later, -⟩
    · cases first with
      | disconnect => cases asks
      | _ => cases same
    · exact later
  have inside : j ≤ n + 1 := by
    have bound := h.traced.named _ claimed
    rw [h.traced.length_callers] at bound
    simp at bound
    omega
  refine ⟨j, later, inside, ?_, fun i after within other => ?_⟩
  · rcases h.disconnect_ended ended later inside with ⟨-, handed⟩ | ⟨-, unclaimed⟩
    · exact handed
    · exact absurd claimed unclaimed
  · rcases h.disconnect_ended ended after within with ⟨also, -⟩ | ⟨skipped, -⟩
    · exact absurd (h.swapRunning_unique also claimed) other
    · exact skipped

end Crowd.Logged

/-! ## Runs -/

/-- What holds of the disconnects of a crowd. -/
structure Crowd.Heeded (w : Crowd (Recorded σ)) : Prop where
  paced : w.session.Paced
  distinct : w.session.Distinct
  skipped : w.Skipped
  promised : w.session.queue.worker = .alive → w.Promised

theorem Crowd.Heeded.step {w v : Crowd (Recorded σ)} {m : Crowd.Move σ} {steers : List Steer}
    (h : w.Heeded) (logged : w.Logged steers) (step : w.Step e.recorded c m.recorded v) : v.Heeded := by
  refine ⟨h.paced.step logged.accounted step, h.distinct.step logged.accounted step,
    h.skipped.step h.distinct step, fun alive => ?_⟩
  have sound : m ≠ .session .crash := by
    rintro rfl
    cases step with
    | crash =>
      rw [crash_frame] at alive
      cases alive
    | aside aside => cases aside
  have before : w.session.queue.worker = .alive := by
    rw [← step.worker logged.accounted (sound ∘ Crowd.Move.eq_crash_of_recorded), alive]
  exact (h.promised before).step logged.accounted before h.distinct sound step

theorem Crowd.heeded_after {hosted : Bool} {fs : Files} {env : Environment} {clientId : String}
    {wanted : List Notice.Kind} {directory : Directory Listener} {engine engine' : σ}
    {s : Session σ}
    (established : establish e hosted fs env c clientId wanted directory engine = (.ok s, engine'))
    (steers : List Steer) {ms : List (Move σ)} (undirected : Undirected ms) :
    ((s.recording.crowd steers).after e.recorded c (ms.map Move.recorded)).Heeded := by
  obtain ⟨logged, -, present⟩ := logged_of_establish established steers
  have heeded : (s.recording.crowd steers).Heeded := by
    obtain ⟨staged, -, rfl⟩ := establish_eq_ok established
    refine ⟨⟨0, rfl, fun _ => rfl⟩, ⟨List.nodup_nil, fun k among => nomatch among⟩,
      fun i among => (nomatch among), fun _ => ⟨⟨fun _ => rfl, fun x busy => ?_⟩,
        fun i among => nomatch among⟩⟩
    cases busy
  exact (recorded_induction (w := s.recording.crowd steers)
    (P := fun w => w.Logged steers ∧ w.Heeded) ⟨logged, heeded⟩ present undirected
    fun w v m _ h step => ⟨h.1.step step, h.2.step h.1 step⟩).2

/-- In every run of a crowd whose callers alone steer the session, over every engine: the engine hears no more
disconnects, and no more stops of its loop, than connections were asked for. Between two disconnects that were handed
in, somebody asked for a connection after the one and before the other found the session running. A disconnect that
found it at rest has succeeded. And of any number of disconnects after a single connect, once all calls are over and
nothing is left to do, exactly one has reached the engine, with one stop of the loop; its caller is told what the
engine answered to it, and the others have succeeded at once. -/
theorem disconnects_of_callers {hosted : Bool} {fs : Files} {env : Environment} {clientId : String}
    {wanted : List Notice.Kind} {directory : Directory Listener} {engine engine' : σ}
    {s : Session σ}
    (established : establish e hosted fs env c clientId wanted directory engine = (.ok s, engine'))
    (steers : List Steer) (ms : List (Crowd.Move σ)) (undirected : Crowd.Undirected ms) :
    let w := (s.recording.crowd steers).after e.recorded c (ms.map Crowd.Move.recorded)
    w.plain = (s.crowd steers).after e c ms ∧
      w.session.engine.heard.count .disconnect ≤ (w.log.map Prod.snd).count .setRunning ∧
      w.session.engine.heard.count .stopLoop ≤ (w.log.map Prod.snd).count .setRunning ∧
      (∀ i j, i ≠ j → (i, .enqueue (.disconnect false)) ∈ w.log →
        (j, .enqueue (.disconnect false)) ∈ w.log →
        ∃ before between after k,
          (w.log = before ++ (i, .swapRunning true) :: (between ++ (j, .swapRunning true) :: after) ∨
            w.log = before ++ (j, .swapRunning true) :: (between ++ (i, .swapRunning true) :: after)) ∧
          (k, .setRunning) ∈ between) ∧
      (∀ i, (i, .swapRunning false) ∈ w.log →
        ∃ k, w.callers[i]? = some ⟨.disconnect, .returned k⟩ ∧
          w.session.resolution? k = some (.answered (.ofStatus .success))) ∧
      ∀ first n, first.asks = true → steers = first :: List.replicate (n + 1) .disconnect →
        w.log.head? = some (0, .setRunning) → .session .crash ∉ ms → w.isDone = true →
        w.session.engine.heard.count .disconnect = 1 ∧ w.session.engine.heard.count .stopLoop = 1 ∧
        ∃ j, 0 < j ∧ j ≤ n + 1 ∧
          (∃ (k : Ticket) (place : Nat) (r : Reply),
            w.callers[j]? = some ⟨.disconnect, .returned k⟩ ∧
            w.session.engine.heard[place]? = some .disconnect ∧
            w.session.engine.answered[place]? = some r ∧
            w.session.resolution? k = some (.answered (.ofStatus r.status))) ∧
          ∀ i, 0 < i → i ≤ n + 1 → i ≠ j → (i, .swapRunning false) ∈ w.log ∧
            ∃ k, w.callers[i]? = some ⟨.disconnect, .returned k⟩ ∧
              w.session.resolution? k = some (.answered (.ofStatus .success)) := by
  intro w
  obtain ⟨logged, alive⟩ : w.Logged steers ∧
      (.session .crash ∉ ms → w.session.queue.worker = .alive) :=
    Crowd.logged_after established steers undirected
  have heeded : w.Heeded := Crowd.heeded_after established steers undirected
  have fewer := logged.count_disconnect_le
  obtain ⟨lost, paced, exactly⟩ := heeded.paced
  refine ⟨Crowd.plain_after ms, fewer, by omega, fun i j other => logged.setRunning_between other,
    heeded.skipped, ?_⟩
  rintro first n asks rfl head sound done
  obtain ⟨ended, idle⟩ := (Bool.and_eq_true_iff.mp done : _ ∧ _)
  have free : w.session.exchange = none := logged.accounted.free_of_idle idle
  obtain ⟨j, later, inside, handed, others⟩ := logged.exists_disconnect asks head ended
  -- The one disconnect that was handed in has been heard, and no more are heard than connects were asked for.
  have heard : w.session.engine.heard.count .disconnect = 1 := by
    have once := logged.count_setRunning_le
    have among : Command.disconnect ∈ requested w.log := List.mem_filterMap.mpr ⟨_, handed, rfl⟩
    rw [← logged.accounted.heard_of_idle idle (alive sound)] at among
    have positive := List.count_pos_iff.mpr (List.mem_filter.mp among).1
    omega
  obtain ⟨k, calls, fate⟩ := (heeded.promised (alive sound)).fate j handed
  refine ⟨heard, ?_, j, later, inside, ?_, fun i after within other => ?_⟩
  · rw [said_of_free free, exactly (alive sound)] at paced
    simpa [heard] using paced
  · -- Nothing waits and nothing is at work any more, so its ticket is settled.
    cases fate with
    | waits among =>
      rw [((WorkQueue.isIdle_iff _).mp idle).1] at among
      cases among
    | asked busy | stopping busy =>
      rw [free] at busy
      cases busy
    | settled heard answered told => exact ⟨k, _, _, calls, heard, answered, told⟩
  · have skipped := others i after within other
    exact ⟨skipped, heeded.skipped i skipped⟩

/-- Three callers disconnect at once after a connect: one disconnect and one stop of the loop reach the engine, and the
other two callers have found the session at rest. -/
theorem disconnects_of_callers_three :
    let c := Config.ofEndpoint "sensor" "broker" 1883 60
    let ms : List (Crowd.Move Loopback) :=
      [.access 0, .access 0, .access 0, .session .work, .access 2, .access 1, .session .work, .access 3,
        .access 2, .session .work, .access 2, .session .work, .session .work, .session .deliver,
        .session .deliver, .session .deliver, .session .work]
    ∃ s engine,
      establish Loopback.engine true .empty [] c "sensor" [] .empty (.fresh [] [] 0) = (.ok s, engine) ∧
      let w := (s.recording.crowd [.connect "broker" 1883 60, .disconnect, .disconnect, .disconnect]).after
        Loopback.engine.recorded c (ms.map Crowd.Move.recorded)
      w.isDone = true ∧ w.session.engine.heard.count .disconnect = 1 ∧
        w.session.engine.heard.count .stopLoop = 1 ∧
        ∃ j, 0 < j ∧ j ≤ 3 ∧ ∀ i, 0 < i → i ≤ 3 → i ≠ j → (i, .swapRunning false) ∈ w.log := by
  refine ⟨_, _, rfl, ?_⟩
  obtain ⟨-, -, -, -, -, single⟩ := disconnects_of_callers (show establish Loopback.engine true .empty []
    (.ofEndpoint "sensor" "broker" 1883 60) "sensor" [] .empty (.fresh [] [] 0) = (.ok _, _) from rfl)
    [.connect "broker" 1883 60, .disconnect, .disconnect, .disconnect]
    [.access 0, .access 0, .access 0, .session .work, .access 2, .access 1, .session .work, .access 3,
      .access 2, .session .work, .access 2, .session .work, .session .work, .session .deliver,
      .session .deliver, .session .deliver, .session .work] (by simp [Crowd.Undirected, Move.steers])
  obtain ⟨once, stopped, j, later, inside, -, others⟩ := single _ 2 rfl rfl rfl (by simp) rfl
  exact ⟨rfl, once, stopped, j, later, inside, fun i after within other =>
    (others i after within other).1⟩

end Session

end BrokerSession
