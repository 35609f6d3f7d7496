import BrokerSession.Proofs.Network.Lives

/-!
# The broker that an engine goes back to

An engine that is asked to connect again goes to a broker that it remembers. The loopback engine remembers the broker of
the last connect that was accepted. The network engine remembers the broker of the last connect that it heard, and looks
only then whether a connection can be opened there. An engine that has refused a connect is therefore left as it was but
for this broker, and refuses again when it is told to go back.

## Main definitions

* `lastNamed` - the broker that was named last
* `lastReached` - the broker of the last connect that was accepted

## Main results

* `NetworkEngine.eq_of_refused` - what a refused connect does to a network engine
* `Workshop.endpoint_of_life`, `Loopback.endpoint_of_life` - the brokers that the engines remember
* `endpoint_of_refusal` - both of them, with what follows for a later attempt
* `endpoint_changed_by_refusal` - an engine that could go back to its broker, and cannot after a refused connect
-/

namespace BrokerSession

/-! ## Histories -/

section

variable {ι : Type} {h : List (Incident ι)} {x : Incident ι}

/-- The broker that is named in an incident. -/
def Incident.named? : Incident ι → Option Endpoint
  | heard c => c.address?
  | _ => none

/-- The broker to which a connect is accepted in an incident. -/
def Incident.reached? : Incident ι → Option Endpoint
  | answered c r => if r.status = .success then c.address? else none
  | _ => none

/-- The broker that was named last. -/
def lastNamed (h : List (Incident ι)) : Option Endpoint := (h.filterMap Incident.named?).getLast?

/-- The broker of the last connect that was accepted. -/
def lastReached (h : List (Incident ι)) : Option Endpoint := (h.filterMap Incident.reached?).getLast?

theorem lastNamed_concat : lastNamed (h ++ [x]) = x.named?.or (lastNamed h) := by
  cases named : x.named? <;> simp [lastNamed, named]

theorem lastNamed_concat_of_eq_none (none : x.named? = none) : lastNamed (h ++ [x]) = lastNamed h := by
  rw [lastNamed_concat, none, Option.none_or]

theorem lastReached_concat : lastReached (h ++ [x]) = x.reached?.or (lastReached h) := by
  cases reached : x.reached? <;> simp [lastReached, reached]

theorem lastReached_concat_of_eq_none (none : x.reached? = none) : lastReached (h ++ [x]) = lastReached h := by
  rw [lastReached_concat, none, Option.none_or]

end

/-! ## The network engine -/

namespace NetworkEngine

variable {n : Network} {s u : NetworkEngine} {now later : Nat} {c : Command} {r : Reply}

/-- What a connection is opened with depends on the settings and on the broker that is remembered. -/
theorem dial?_call (s : NetworkEngine) (now : Nat) (c : Command) :
    (s.call now c).dial? = { s with endpoint := c.address?.or s.endpoint }.dial? := by
  obtain ⟨grace, stopping, eq⟩ := call_frame s now c
  rw [eq]
  rfl

/-- An engine that cannot open a connection does not even stop its loop. -/
theorem call_of_undialed {status : Status} (asks : c.asks = true) (wrong : (s.call now c).dial? = .error status) :
    s.call now c = { s with endpoint := c.address?.or s.endpoint } := by
  rw [dial?_call] at wrong
  cases c with
  | connect host port keepAlive =>
    simp only [call]
    rw [show ({ s with endpoint := some ⟨host, port, keepAlive⟩ } : NetworkEngine).dial? = _ from wrong]
    rfl
  | reconnect =>
    simp only [call]
    rw [show s.dial? = _ from wrong]
    rfl
  | _ => cases asks

/-- An engine that refuses a connect has none to open a connection with, and remembers the broker all the same. -/
theorem eq_of_refused (asks : c.asks = true) (done : (s.call now c).finish n later c = some (r, u))
    (refused : r.status ≠ .success) :
    r = .ofStatus .inval ∧ u.dial? = .error .inval ∧ u = { s with endpoint := c.address?.or s.endpoint } := by
  cases finishes_of_finish done with
  | asked hands handled => simp [Command.asks_of_request? hands] at asks
  | undialed asks wrong =>
    obtain rfl := status_of_undialed wrong
    exact ⟨rfl, wrong, call_of_undialed asks wrong⟩
  | opened asks right back => exact absurd rfl refused
  | running | started | loopless | stopped | destroyed => cases asks

/-- An engine that has nothing to open a connection with refuses to connect again, and stays as it is. -/
theorem reconnect_of_undialed {status : Status} (wrong : s.dial? = .error status) :
    (s.call now .reconnect).finish n later .reconnect = some (.ofStatus status, s) := by
  -- The engine looks what it would connect to before it stops its loop.
  have same : s.call now .reconnect = s := by
    simp only [call]
    rw [wrong]
    rfl
  rw [same]
  simp [finish, reopen?, wrong]

/-- A broker is remembered from when it is named, not from when the command is carried out. -/
theorem endpoint_of_finish (done : s.finish n now c = some (r, u)) : u.endpoint = s.endpoint := by
  cases finishes_of_finish done with
  | asked hands handled => cases handled <;> rfl
  | undialed | running => rfl
  | opened _ _ back | started back | loopless back | stopped back | destroyed back =>
    obtain ⟨-, rfl⟩ := eq_of_recover? back
    rfl

end NetworkEngine

namespace Workshop

variable {n : Network} {h : List (Incident LoopIncident)} {busy : Option Command} {w w' : Workshop} {i : LoopIncident}

theorem endpoint_of_aside (happened : w.Aside n busy i w') : w'.engine.endpoint = w.engine.endpoint := by
  cases happened with
  | turned held taken =>
    obtain ⟨t', extra, rfl, -⟩ := NetworkEngine.turns_of_running held taken
    rfl
  | strayTurned | took => rfl
  | brokeDown held broken => rw [NetworkEngine.eq_of_breakDown? held broken]
  | abandoned waits still held cut => rw [NetworkEngine.eq_of_abandon? held cut]

/-- A network engine remembers the broker that was named last. -/
theorem endpoint_of_life {fs : Files} (life : Lives fs n h busy w) : w.engine.endpoint = lastNamed h := by
  induction life with
  | begin => rfl
  | set x life same => exact same.trans (lastNamed_concat_of_eq_none rfl).symm
  | attach life same => exact same.trans (lastNamed_concat_of_eq_none rfl).symm
  | @hear h w now c life same =>
    obtain ⟨grace, stopping, eq⟩ := NetworkEngine.call_frame w.engine now c
    rw [lastNamed_concat, ← same]
    exact congrArg NetworkEngine.endpoint eq
  | answer life done same =>
    obtain ⟨⟨r', u⟩, finished, eq⟩ := Option.map_eq_some_iff.mp done
    cases eq
    exact (NetworkEngine.endpoint_of_finish finished).trans (same.trans (lastNamed_concat_of_eq_none rfl).symm)
  | aside life happened same =>
    exact (endpoint_of_aside happened).trans (same.trans (lastNamed_concat_of_eq_none rfl).symm)

end Workshop

/-! ## The loopback engine -/

namespace Loopback

variable {new s u : Loopback} {h : List (Incident (List Report ⊕ Stir))} {busy : Option Command} {c : Command}
  {r : Reply}

/-- A broker in the spelling of the loopback engine. -/
def spelled (e : Endpoint) : String × UInt16 × UInt16 := (e.host, e.port, e.keepAliveSecs)

/-- A connect that is carried out is accepted, and its broker is remembered. -/
theorem endpoint_of_perform (s : Loopback) (c : Command) :
    (s.perform c).2.endpoint = (c.address?.map spelled).or s.endpoint ∧
      (c.address?.isSome = true → (s.perform c).1.status = .success) := by
  cases c <;>
    simp only [perform, answerConnect, whenConnected, publish, subscribe, unsubscribe, startLoop, Command.address?] <;>
    grind [emit_endpoint, spelled, Reply.ofStatus]

theorem endpoint_of_finish (honest : ∀ name, s.failures.lookup name ≠ some .success) (done : s.finish c = some (r, u)) :
    u.endpoint = ((Incident.answered c r : Incident (List Report ⊕ Stir)).reached?.map spelled).or s.endpoint := by
  have carriedOut (v : Loopback) (same : v.endpoint = s.endpoint) (performed : (r, u) = v.perform c) :
      u.endpoint = ((Incident.answered c r : Incident (List Report ⊕ Stir)).reached?.map spelled).or s.endpoint := by
    obtain ⟨endpoint, accepted⟩ := endpoint_of_perform v c
    rw [← performed, same] at endpoint
    rw [← performed] at accepted
    have reached : (Incident.answered c r : Incident (List Report ⊕ Stir)).reached? = c.address? := by
      cases named : c.address? with
      | none => simp [Incident.reached?, named]
      | some e => simp [Incident.reached?, named, show r.status = .success from accepted (by simp [named])]
    rw [reached]
    exact endpoint
  -- A refused connect is not carried out at all.
  rcases finish_eq_some done with ⟨status, refused, -, rfl, rfl⟩ | ⟨-, -, performed⟩ | ⟨-, -, v, collected, performed⟩
  · have fails : status ≠ .success := fun same => honest _ (same ▸ refused)
    simp [Incident.reached?, Reply.ofStatus, fails]
  · exact carriedOut s rfl performed
  · refine carriedOut v ?_ performed
    obtain ⟨-, rfl⟩ := collect?_eq_some_iff.mp collected
    split <;> rfl

theorem endpoint_of_aside {i : List Report ⊕ Stir} (happened : s.Aside busy i u) : u.endpoint = s.endpoint := by
  cases happened with
  | delivered taken =>
    unfold deliver at taken
    split at taken <;> cases taken <;> rfl
  | stirred stir => cases stir <;> simp [Stir.apply, Loopback.inject, dropConnection]

/-- A loopback engine remembers the broker of the last connect that was accepted. -/
theorem endpoint_of_life (life : Lives new h busy s) (none : new.endpoint = none)
    (honest : ∀ name, new.failures.lookup name ≠ some .success) : s.endpoint = (lastReached h).map spelled := by
  induction life with
  | begin => exact none
  | set x life same => exact same.trans (congrArg _ (lastReached_concat_of_eq_none rfl).symm)
  | attach life same => exact same.trans (congrArg _ (lastReached_concat_of_eq_none rfl).symm)
  | hear now c life same =>
    exact (call_endpoint _ c).trans (same.trans (congrArg _ (lastReached_concat_of_eq_none rfl).symm))
  | answer life done same =>
    rw [endpoint_of_finish (failures_of_life life ▸ honest) done, same, lastReached_concat, Option.map_or]
  | aside life happened same =>
    exact (endpoint_of_aside happened).trans (same.trans (congrArg _ (lastReached_concat_of_eq_none rfl).symm))

end Loopback

/-! ## Refusals -/

/-- A network engine that refuses a connect is left as it was but for the broker that it remembers, which is the one
that the connect has named. So it is left entirely as it was exactly if the connect has named no broker but this one;
and when it is told to go back it refuses again, and stays as it is. Over any life the network engine remembers the
broker that was named last, and a loopback engine, whose refusals are no successes, that of the last connect that was
accepted. -/
theorem endpoint_of_refusal (w : Workshop) (m : Loopback) :
    (∀ n u now later c r, c.asks = true →
      (w.engine.call now c).finish n later c = some (r, u) → r.status ≠ .success →
        u = { w.engine with endpoint := c.address?.or w.engine.endpoint } ∧
        (u = w.engine ↔ ∀ e, c.address? = some e → w.engine.endpoint = some e) ∧
        ∀ now later, (u.call now .reconnect).finish n later .reconnect = some (r, u)) ∧
    (∀ fs n h busy, Workshop.Lives fs n h busy w → w.engine.endpoint = lastNamed h) ∧
    ∀ new h busy, new.endpoint = none → (∀ name, new.failures.lookup name ≠ some .success) →
      Loopback.Lives new h busy m → m.endpoint = (lastReached h).map Loopback.spelled := by
  refine ⟨fun n u now later c r asks done refused => ?_, fun fs n h busy life => Workshop.endpoint_of_life life,
    fun new h busy none honest life => Loopback.endpoint_of_life life none honest⟩
  obtain ⟨rfl, wrong, left⟩ := NetworkEngine.eq_of_refused asks done refused
  refine ⟨left, ?_, fun now later => NetworkEngine.reconnect_of_undialed wrong⟩
  rw [left]
  constructor
  · intro same e named
    have kept : c.address?.or w.engine.endpoint = w.engine.endpoint := congrArg NetworkEngine.endpoint same
    rw [← kept, named]
    rfl
  · intro kept
    cases named : c.address? with
    | none => rfl
    | some e => rw [← kept e named, Option.or_self]

/-- A network engine refuses to connect to a broker without a name and remembers it; a loopback engine that refuses
connects remembers none. -/
theorem endpoint_of_refusal_nameless :
    let nameless : Command := .connect "" 1883 60
    (∃ h w u, Workshop.Lives .empty .unreachable h none w ∧ w.engine.endpoint = lastNamed h ∧
      (w.engine.call 0 nameless).finish .unreachable 0 nameless = some (.ofStatus .inval, u) ∧
      u = { w.engine with endpoint := some ⟨"", 1883, 60⟩ }) ∧
    ∃ h s, Loopback.Lives (.fresh [("connect", .inval)] [] 0) h none s ∧ lastNamed h = some ⟨"", 1883, 60⟩ ∧
      lastReached h = none ∧ s.endpoint = (lastReached h).map Loopback.spelled := by
  intro nameless
  let w : Workshop := ⟨Workshop.joinedEngine, []⟩
  let new := Loopback.fresh [("connect", .inval)] [] 0
  have begun : Loopback.Lives new [] none new := .begin
  have told := begun.exchange (r := .ofStatus .inval) 0 nameless rfl
  constructor
  · obtain ⟨refusal, named, -⟩ := endpoint_of_refusal w new
    have left := (refusal .unreachable { w.engine with endpoint := some ⟨"", 1883, 60⟩ } 0 0 nameless
      (.ofStatus .inval) rfl rfl nofun).1
    exact ⟨_, w, _, Workshop.lives_joined, named _ _ _ _ Workshop.lives_joined, rfl, left⟩
  · have honest (name : String) : new.failures.lookup name ≠ some .success := by
      simp only [new, Loopback.fresh, List.lookup_cons, List.lookup_nil]
      split <;> exact nofun
    obtain ⟨-, -, reached⟩ := endpoint_of_refusal w (Loopback.engine.call new 0 nameless)
    exact ⟨_, _, told, rfl, rfl, reached new _ _ rfl honest told⟩

/-- An engine that would go back to its broker, and cannot any more after it has refused another connect. -/
theorem endpoint_changed_by_refusal :
    ∃ h w c r u, Workshop.Lives .empty .unreachable h none w ∧ w.engine.endpoint = lastReached h ∧
      ((w.engine.call 0 .reconnect).finish .unreachable 0 .reconnect).map Prod.fst = some (.ofStatus .success) ∧
      c.asks = true ∧ (w.engine.call 0 c).finish .unreachable 0 c = some (r, u) ∧ r.status ≠ .success ∧
      u ≠ w.engine ∧ u.endpoint ≠ lastReached h ∧
      ((u.call 0 .reconnect).finish .unreachable 0 .reconnect).map Prod.fst = some (.ofStatus .inval) :=
  ⟨_, ⟨Workshop.joinedEngine, []⟩, .connect "" 1883 60, .ofStatus .inval,
    { Workshop.joinedEngine with endpoint := some ⟨"", 1883, 60⟩ }, Workshop.lives_joined, rfl, rfl, rfl, rfl, nofun,
    by decide, by decide, rfl⟩

end BrokerSession
