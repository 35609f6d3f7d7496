import BrokerSession.Proofs.Loopback
import BrokerSession.Proofs.Session.Orderly
import Mathlib.Data.List.Induction

/-!
# What a session learns about its connection

Its owner apart, three things move the phase of a session: an event that says whether there is a connection,
the refusal of a connect, and the end of a disconnect. A run in which the owner asks neither for a
connection nor for its end leaves the session where these news lead it, one after another, and nothing else
in the run matters.

For a session that waits for a connection the whole list of news comes down to two questions: what was the
last event about the connection, and was a connect refused after it.

## Main definitions

* `News` - a piece of news about the connection
* `Phase.learn`, `Phase.learnAll` - where news lead a session
* `Session.news`, `Session.newsOf` - what a session learns in a move, and in each move of a run
* `Session.chronicle` - what it learns in a run
* `News.lastHeard`, `News.refusedSince` - the last event about the connection, and whether a connect was
  refused after it

## Main results

* `standing_after` - a run without steering orders leaves the session where its news lead
* `learnAll_connecting` - where news lead a session that waits for a connection
-/

namespace BrokerSession

/-- A piece of news about the connection of a session. -/
inductive News where
  /-- An event says whether there is a connection. -/
  | heard (there : Bool)
  /-- The engine refused a connect. -/
  | refused
  /-- A disconnect is done. -/
  | parted
  deriving DecidableEq

/-! ## Where news lead -/

/-- The phase after a piece of news, given whether the engine retries on its own and whether the session is
meant to run. A refusal concerns only a session that waits, and the end of a disconnect only one that is
meant to rest. -/
def Phase.learn (retries running : Bool) (p : Phase) : News → Phase
  | .heard true => .connected
  | .heard false => if retries && running then .connecting else .disconnected
  | .refused => if p = .connecting then .disconnected else p
  | .parted => if running then p else .disconnected

/-- The phase after news, the earliest first. -/
def Phase.learnAll (retries running : Bool) (p : Phase) (news : List News) : Phase :=
  news.foldl (learn retries running) p

namespace Phase

variable {retries running : Bool} {p : Phase}

@[simp] theorem learnAll_nil : p.learnAll retries running [] = p := rfl

@[simp] theorem learnAll_append (news news' : List News) :
    p.learnAll retries running (news ++ news') =
      (p.learnAll retries running news).learnAll retries running news' :=
  List.foldl_append

@[simp] theorem learnAll_singleton (n : News) :
    p.learnAll retries running [n] = p.learn retries running n :=
  rfl

theorem learn_lost_ne_connected : p.learn retries running (.heard false) ≠ .connected := by
  simp only [learn]
  split <;> exact fun connected => nomatch connected

/-- Only the news of an accepted connect makes a session connected. -/
theorem learn_ne_connected {n : News} (unconnected : p ≠ .connected) (other : n ≠ .heard true) :
    p.learn retries running n ≠ .connected := by
  cases n with
  | heard there =>
    cases there with
    | true => exact absurd rfl other
    | false => exact learn_lost_ne_connected
  | refused | parted =>
    simp only [learn]
    split <;> first | exact unconnected | exact fun connected => nomatch connected

end Phase

/-- What an event does to the standing is what it says about the connection. -/
theorem Listener.advance_eq (l : Listener) (s : Standing) (event : EngineEvent) :
    l.advance s event =
      { s with
        phase := s.phase.learnAll l.autoReconnect s.running (event.link?.map News.heard).toList } := by
  cases event with
  | connect code =>
    by_cases accepted : code = 0
    · simp [advance, EngineEvent.link?, Phase.learn, accepted]
    · have told : (code == 0) = false := beq_false_of_ne accepted
      simp [advance, EngineEvent.link?, Phase.learn, retryPhase, accepted, told]
  | disconnect code => simp [advance, EngineEvent.link?, Phase.learn, retryPhase]
  | _ => rfl

/-- What a report of the event loop says about the connection. -/
def Report.link? : Report → Option Bool
  | event e => e.link?
  | retrying .. => none

/-- What an answer of the engine tells a session about the connection. -/
def Exchange.news (x : Exchange) (r : Reply) : List News :=
  match x.command with
  | .connect .. | .reconnect => if r.status.isSuccess then [] else [.refused]
  | .stopLoop => [.parted]
  | _ => []

theorem Exchange.standing_eq (x : Exchange) (r : Reply) (s : Standing) (retries : Bool) :
    x.standing r s = { s with phase := s.phase.learnAll retries s.running (x.news r) } := by
  obtain ⟨job, cmd, earlier, due⟩ := x
  obtain ⟨phase, running⟩ := s
  cases cmd with
  | connect | reconnect =>
    simp only [standing, news]
    cases r.status.isSuccess
    · by_cases waiting : phase = .connecting <;> simp [Phase.learn, waiting]
    · rfl
  | stopLoop => cases running <;> simp [standing, news, Phase.learn]
  | _ => rfl

namespace Session

variable {σ : Type} {e : Engine σ} {c : Config} {s t : Session σ} {m : Move σ} {ms : List (Move σ)}
  {retries : Bool}

/-! ## The news of a run -/

/-- The answer that the worker takes up in its next step, and what it answers. -/
def answer? (e : Engine σ) (s : Session σ) : Option (Exchange × Reply) :=
  s.exchange.bind fun x =>
    if s.clock < x.due then none
    else (e.finish s.engine s.clock x.command).map fun (r, _) => (x, r)

/-- What reports of the event loop say about the connection, as long as the session is registered. -/
def newsIn (s : Session σ) (reports : List Report) : List News :=
  if (s.directory.lookup? s.key).isSome then (reports.filterMap Report.link?).map .heard else []

/-- What a session learns about its connection in a move. -/
def news (e : Engine σ) (s : Session σ) : Move σ → List News
  | .work => ((s.answer? e).map fun (x, r) => x.news r).getD []
  | .deliver => ((e.deliver s.engine s.clock).map fun (reports, _) => s.newsIn reports).getD []
  | _ => []

/-- What a session learns about its connection in each move of a run. -/
def newsOf (e : Engine σ) (c : Config) (s : Session σ) : List (Move σ) → List (List News)
  | [] => []
  | m :: ms => s.news e m :: newsOf e c (s.move e c m) ms

/-- What a session learns about its connection in a run, the earliest first. -/
def chronicle (e : Engine σ) (c : Config) (s : Session σ) (ms : List (Move σ)) : List News :=
  (newsOf e c s ms).flatten

/-! ## The news move the session -/

/-- Whether a session is in order, and whoever listens for it knows whether its engine retries on its own. -/
structure Attended (retries : Bool) (s : Session σ) : Prop where
  order : s.Orderly
  listener : ∀ l, s.directory.lookup? s.key = some l → l.autoReconnect = retries

theorem standing_workerStep (h : s.workerStep? e = some t) (retries : Bool) :
    t.standing = { s.standing with
      phase := s.standing.phase.learnAll retries s.standing.running (s.news e .work) } := by
  -- Only an answer of the engine brings news; taking up a job or ending the worker moves nothing.
  cases busy : s.exchange with
  | none =>
    have silent : s.news e .work = [] := by simp [news, answer?, busy]
    rw [silent]
    cases workerStep_of_workerStep? h with
    | goOn speaks => rw [busy] at speaks; cases speaks
    | finish speaks => rw [busy] at speaks; cases speaks
    | _ => rfl
  | some x =>
    unfold workerStep? at h
    simp only [busy] at h
    split at h
    · cases h
    · rename_i due
      obtain ⟨⟨r, engine⟩, answered, rfl⟩ := Option.map_eq_some_iff.mp h
      have told : s.news e .work = x.news r := by simp [news, answer?, busy, due, answered]
      rw [told, ← x.standing_eq r s.standing retries, proceed_eq]
      cases x.sequel r <;> rfl

/-- A worker that makes no step learns nothing. -/
theorem news_of_stuck (h : s.workerStep? e = none) : s.news e .work = [] := by
  unfold workerStep? at h
  cases busy : s.exchange with
  | none => simp [news, answer?, busy]
  | some x =>
    simp only [busy] at h
    split at h
    · rename_i early
      simp [news, answer?, busy, early]
    · simp [news, answer?, busy, Option.map_eq_none_iff.mp h]

theorem newsIn_cons (report : Report) (reports : List Report) :
    s.newsIn (report :: reports) = s.newsIn [report] ++ s.newsIn reports := by
  unfold newsIn
  split
  · rw [← List.map_append, ← List.filterMap_append, List.singleton_append]
  · rfl

/-- What later reports say does not depend on the earlier ones. -/
theorem newsIn_receive (report : Report) (reports : List Report) :
    (s.receive report).newsIn reports = s.newsIn reports := by
  obtain ⟨phase, journal, eq⟩ := receive_frame (s := s) report
  rw [eq]
  rfl

theorem standing_receive
    (listener : ∀ l, s.directory.lookup? s.key = some l → l.autoReconnect = retries)
    (report : Report) :
    (s.receive report).standing = { s.standing with
      phase := s.standing.phase.learnAll retries s.standing.running (s.newsIn [report]) } := by
  cases report with
  | retrying attempt delay =>
    have silent : s.newsIn [.retrying attempt delay] = [] := by
      unfold newsIn
      split <;> rfl
    rw [silent]
    rfl
  | event event =>
    -- An event for a session that is not registered any more is lost, and is no news.
    cases here : s.directory.lookup? s.key with
    | none => simp [receive, hear, newsIn, here]
    | some l =>
      have told : s.newsIn [.event event] = (event.link?.map News.heard).toList := by
        cases link : event.link? <;> simp [newsIn, here, Report.link?, link]
      rw [told, ← listener l here, ← l.advance_eq s.standing event]
      simp [receive, hear, here, Listener.handle]

/-- A step of the event loop leads the session where its reports say. -/
theorem standing_loopStep (h : s.loopStep? e = some t)
    (listener : ∀ l, s.directory.lookup? s.key = some l → l.autoReconnect = retries) :
    t.standing = { s.standing with
      phase := s.standing.phase.learnAll retries s.standing.running (s.news e .deliver) } := by
  obtain ⟨⟨reports, engine⟩, delivered, rfl⟩ := Option.map_eq_some_iff.mp h
  have told : s.news e .deliver = s.newsIn reports := by simp [news, delivered]
  suffices heard : ∀ u : Session σ,
      (∀ l, u.directory.lookup? u.key = some l → l.autoReconnect = retries) →
      (reports.foldl receive u).standing = { u.standing with
        phase := u.standing.phase.learnAll retries u.standing.running (u.newsIn reports) } by
    rw [told]
    exact heard { s with engine } listener
  -- The induction is on the reports. A report changes neither the registration nor whether the session is
  -- meant to run.
  clear told delivered h
  induction reports with
  | nil =>
    intro u _
    have silent : u.newsIn [] = [] := by simp [newsIn]
    rw [silent]
    rfl
  | cons report reports ih =>
    intro u listener
    obtain ⟨phase, journal, eq⟩ := receive_frame (s := u) report
    have kept : ∀ l, (u.receive report).directory.lookup? (u.receive report).key = some l →
        l.autoReconnect = retries := by
      rw [eq]
      exact listener
    rw [List.foldl_cons, ih _ kept, newsIn_receive, standing_receive listener,
      newsIn_cons report reports, Phase.learnAll_append]

/-- A move that is no steering order leads the session where its news say. -/
theorem standing_move (attended : s.Attended retries) (sound : m ≠ .crash)
    (steady : m.steers s.standing.running = false) :
    (s.move e c m).standing = { s.standing with
      phase := s.standing.phase.learnAll retries s.standing.running (s.news e m) } := by
  unfold move
  -- Of the moves only a step of the worker and a delivery bring news.
  cases m with
  | order o =>
    cases here : s.tornDown with
    | true => simp [move?, obey_of_tornDown here, news]
    | false =>
      simp only [move?, obey_eq here (attended.order.taking here), Option.getD_some]
      exact Order.standing_of_steady steady
  | close =>
    simp only [move?]
    split <;> rfl
  | work =>
    cases made : s.workerStep? e with
    | none => simp [move?, made, news_of_stuck made]
    | some t => simpa [move?, made] using standing_workerStep made retries
  | deliver =>
    cases made : s.loopStep? e with
    | none =>
      have silent : s.news e .deliver = [] := by
        simp [news, Option.map_eq_none_iff.mp made]
      simp [move?, made, silent]
    | some t => simpa [move?, made] using standing_loopStep made attended.listener
  | pass millis | outside f | clearDirectory => rfl
  | crash => exact absurd rfl sound

namespace Attended

theorem obey (h : s.Attended retries) (o : Order) : (s.obey c o).Attended retries := by
  refine ⟨h.order.obey o, ?_⟩
  cases here : s.tornDown with
  | true => rw [obey_of_tornDown here]; exact h.listener
  | false => rw [obey_eq here (h.order.taking here)]; exact h.listener

theorem workerStep (h : s.Attended retries) (step : WorkerStep e s t) : t.Attended retries := by
  refine ⟨h.order.workerStep step, ?_⟩
  cases step with
  | dismiss | begin | retire => exact h.listener
  | @goOn x | @finish x =>
    intro l
    simp only [say, complete, resolve, heed]
    -- Only an engine that was let go costs a session its registration.
    split
    · exact fun gone => by simp at gone
    · exact h.listener l

theorem move (h : s.Attended retries) (sound : m ≠ .crash) (made : s.move? e c m = some t) :
    t.Attended retries := by
  have order := h.order.move sound made
  cases m with
  | order o =>
    obtain rfl := Option.some.inj made
    exact h.obey o
  | close =>
    obtain ⟨-, rfl⟩ := eq_of_close made
    exact ⟨order, h.listener⟩
  | work => exact h.workerStep (workerStep_of_workerStep? made)
  | deliver =>
    obtain ⟨-, engine, phase, journal, -, rfl⟩ := loopStep?_frame made
    exact ⟨order, h.listener⟩
  | pass millis | outside f =>
    obtain rfl := Option.some.inj made
    exact ⟨order, h.listener⟩
  | clearDirectory =>
    obtain rfl := Option.some.inj made
    exact ⟨order, fun l gone => by simp at gone⟩
  | crash => exact absurd rfl sound

theorem after (h : s.Attended retries) (sound : .crash ∉ ms) : (s.after e c ms).Attended retries :=
  after_induction h fun _ ht _ hm _ made => ht.move (fun crash => sound (crash ▸ hm)) made

theorem of_establish {hosted : Bool} {fs : Files} {env : Environment} {clientId : String}
    {wanted : List Notice.Kind} {directory : Directory Listener} {engine engine' : σ}
    (established : establish e hosted fs env c clientId wanted directory engine = (.ok s, engine')) :
    s.Attended c.retry.isEnabled := by
  refine ⟨orderly_of_establish established, ?_⟩
  obtain ⟨staged, -, rfl⟩ := establish_eq_ok established
  intro l here
  dsimp only at here
  rw [Directory.lookup?_register] at here
  obtain rfl := Option.some.inj here
  rfl

end Attended

/-- A run without orders that ask for a connection or end one leads the session where its news say. -/
theorem standing_after (attended : s.Attended retries) (sound : .crash ∉ ms)
    (steady : ∀ m ∈ ms, m.steers s.standing.running = false) :
    (s.after e c ms).standing = { s.standing with
      phase := s.standing.phase.learnAll retries s.standing.running (chronicle e c s ms) } := by
  -- The induction is on the run. Whether the session is meant to run stays the same, so that the rest of the run
  -- is steady for the state after the first move as well.
  induction ms generalizing s with
  | nil => rfl
  | cons m ms ih =>
    obtain ⟨first, rest⟩ := List.forall_mem_cons.mp steady
    have fine : m ≠ .crash := fun crash => sound (crash ▸ List.mem_cons_self)
    have moved := standing_move (e := e) (c := c) attended fine first
    have next : (s.move e c m).Attended retries :=
      move_of_move? attended fun t made => attended.move fine made
    have later := ih next (fun crash => sound (List.mem_cons_of_mem _ crash))
      (by rw [moved]; exact rest)
    rw [moved] at later
    have told : chronicle e c s (m :: ms) = s.news e m ++ chronicle e c (s.move e c m) ms := rfl
    rw [told, Phase.learnAll_append]
    exact later

/-- A session that was asked for a connection is where the news since have led it, as long as nobody steers
it. -/
theorem standing_of_connect {o : Order} (attended : s.Attended retries)
    (present : s.tornDown = false) (asks : o.connects = true) (sound : .crash ∉ ms)
    (steady : ∀ m ∈ ms, m.steers true = false) :
    ((s.obey c o).after e c ms).standing =
      ⟨Phase.connecting.learnAll retries true (chronicle e c (s.obey c o) ms), true⟩ := by
  have asked : (s.obey c o).standing = ⟨.connecting, true⟩ := by
    rw [obey_eq present (attended.order.taking present)]
    exact Order.standing_of_connects asks s.standing
  rw [standing_after (attended.obey o) sound (by rw [asked]; exact steady), asked]

end Session

/-! ## A session that waits for a connection -/

namespace News

variable {retries : Bool} {news : List News}

/-- What a piece of news says about the connection, if it comes from an event. -/
def heard? : News → Option Bool
  | heard there => some there
  | _ => none

/-- What the last event about the connection said. -/
def lastHeard (news : List News) : Option Bool := (news.filterMap heard?).getLast?

/-- Whether a connect was refused after the last event about the connection. -/
def refusedSince (news : List News) : Bool :=
  (news.reverse.takeWhile fun n => n.heard?.isNone).contains .refused

theorem lastHeard_concat (news : List News) (n : News) :
    lastHeard (news ++ [n]) = n.heard?.or (lastHeard news) := by
  cases told : n.heard? <;> simp [lastHeard, told]

theorem refusedSince_concat (news : List News) (n : News) :
    refusedSince (news ++ [n]) = (n.heard?.isNone && (n == .refused || refusedSince news)) := by
  cases n <;> simp [refusedSince, heard?]

end News

/-- Where news lead a session that waits for a connection: it is connected if the last event about the
connection said so. If not it goes on waiting, unless a connect was refused since or a connection was lost
for good. -/
theorem Phase.learnAll_connecting (retries : Bool) (news : List News) :
    connecting.learnAll retries true news =
      match News.lastHeard news with
      | some true => .connected
      | some false => if retries && !News.refusedSince news then .connecting else .disconnected
      | none => if News.refusedSince news then .disconnected else .connecting := by
  -- The last piece of news decides what the two questions are answered with, so the induction is from the end.
  induction news using List.reverseRecOn with
  | nil => rfl
  | append_singleton news n ih =>
    rw [learnAll_append, ih, learnAll_singleton, News.lastHeard_concat, News.refusedSince_concat]
    cases n with
    | heard there => cases there <;> simp [learn, News.heard?]
    | parted => simp [learn, News.heard?]
    | refused =>
      -- A refusal ends the waiting and nothing else, so it matters where the news before it have led.
      rcases News.lastHeard news with - | there
      · cases News.refusedSince news <;> simp [learn, News.heard?]
      · cases there <;> cases retries <;> cases News.refusedSince news <;> simp [learn, News.heard?]

namespace Phase

variable {retries : Bool} {news : List News}

theorem learnAll_connecting_eq_connecting_iff :
    connecting.learnAll retries true news = .connecting ↔
      News.refusedSince news = false ∧ News.lastHeard news ≠ some true ∧
        (News.lastHeard news = some false → retries = true) := by
  rw [learnAll_connecting]
  rcases News.lastHeard news with - | there
  · cases News.refusedSince news <;> simp
  · cases there <;> cases retries <;> cases News.refusedSince news <;> simp

theorem learnAll_connecting_ne_disconnected_iff :
    connecting.learnAll retries true news ≠ .disconnected ↔
      News.lastHeard news = some true ∨
        News.refusedSince news = false ∧ (News.lastHeard news = some false → retries = true) := by
  rw [learnAll_connecting]
  rcases News.lastHeard news with - | there
  · cases News.refusedSince news <;> simp
  · cases there <;> cases retries <;> cases News.refusedSince news <;> simp

end Phase

end BrokerSession
