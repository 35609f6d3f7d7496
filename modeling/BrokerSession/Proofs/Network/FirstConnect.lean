import BrokerSession.Proofs.Endpoints
import BrokerSession.Proofs.Network.Dial

/-!
# The first connect after a configuration was accepted

A client identifier and a host are looked at twice: by the rules of a usable configuration before the engine gets any
option, and by the engine when it is asked for a connection. The two agree on hosts, and on identifiers that are made
up for a session. They do not agree on an identifier that begins with a space: no rule objects to it, the engine keeps
it without a word, and then refuses every connect.

## Main definitions

* `Config.MadeUp` - the digits that client identifiers are made up from

## Main results

* `Config.isUsable_effectiveClientId_iff` - the identifiers under which a connection can be opened
* `reply_of_first_connect` - what a network engine replies to the connect that its configuration asks for
* `refused_after_staging` - a configuration that is accepted and cannot be connected
-/

namespace BrokerSession

theorem Identity.isUsable_iff (i : Identity) :
    i.isUsable = true ↔ i.clientId ≠ "" ∧ i.clientId.front? ≠ some ' ' := by
  simp [isUsable]

namespace Config

variable {fs : Files} {c : Config}

/-- Whether a text is one that client identifiers are made up from: 32 hexadecimal digits. -/
def MadeUp (digits : String) : Prop := digits.length = 32 ∧ ∀ d ∈ digits.toList, Hex.isDigit d = true

instance (digits : String) : Decidable (MadeUp digits) :=
  decidable_of_iff (digits.length = 32 ∧ digits.toList.all Hex.isDigit = true) (by simp [MadeUp])

/-- A usable configuration names a host. -/
theorem Usable.host_ne (usable : c.Usable fs) : c.host ≠ "" := by
  intro nameless
  obtain ⟨ch, among, -⟩ := (usable_iff_sound.mp usable).host
  simp [nameless] at among

/-- A made-up identifier begins with a letter or a digit, whether it is cut to a limit or not. -/
theorem front?_effectiveClientId {digits : String} (drawn : MadeUp digits) (unnamed : c.clientId = "") :
    ∃ d, (c.effectiveClientId digits).front? = some d ∧ d ≠ ' ' := by
  obtain ⟨length, hex⟩ := drawn
  rw [← String.length_toList] at length
  obtain ⟨d, rest, split⟩ := List.exists_cons_of_length_eq_add_one length
  have first : Hex.isDigit d = true := hex d (by simp [split])
  have empty : c.clientId.isEmpty = true := by simp [unnamed]
  rw [String.front?_eq, effectiveClientId, if_pos empty]
  cases c.clientIdPolicy with
  | strict =>
    refine ⟨d, by simp [ClientIdPolicy.limit?, ClientId.strictLimit, split], ?_⟩
    rintro rfl
    revert first
    decide
  | brokerDefined => exact ⟨'m', by simp [ClientIdPolicy.limit?, generatedHead], by decide⟩

/-- A connection can be opened under the identifier of a session unless one with a space in front was configured. -/
theorem isUsable_effectiveClientId_iff {digits : String} (drawn : MadeUp digits) (clean : Bool) :
    (Identity.mk (c.effectiveClientId digits) clean).isUsable = true ↔ c.clientId.front? ≠ some ' ' := by
  rw [Identity.isUsable_iff]
  by_cases unnamed : c.clientId = ""
  · obtain ⟨d, front, solid⟩ := front?_effectiveClientId drawn unnamed
    have something : c.effectiveClientId digits ≠ "" := by
      intro empty
      simp [empty, String.front?_eq] at front
    simp [front, solid, something, unnamed, String.front?_eq]
  · rw [effectiveClientId_of_ne unnamed]
    simp [unnamed]

end Config

namespace NetworkEngine

variable {n : Network} {fs disk : Files} {env : Environment} {c : Config} {digits : String} {s u v : NetworkEngine}
  {later : Nat} {cmd : Command} {r : Reply}

/-- An engine answers whether it had something to open a connection with. -/
theorem reply_of_asks (asks : cmd.asks = true) (done : u.finish n later cmd = some (r, v)) :
    r = .ofStatus (if u.dial?.isOk then .success else .inval) := by
  cases finishes_of_finish done with
  | asked hands handled => simp [Command.asks_of_request? hands] at asks
  | undialed asks wrong =>
    obtain rfl := status_of_undialed wrong
    simp [wrong, Except.isOk, Except.toBool]
  | opened asks right back => simp [right, Except.isOk, Except.toBool]
  | running | started | loopless | stopped | destroyed => cases asks

/-- An engine that is doing nothing else answers at once. -/
theorem exists_finish_of_idle (n : Network) (later : Nat) {c : Command} (asks : c.asks = true)
    (idle : u.task = none) : ∃ r v, u.finish n later c = some (r, v) := by
  have reopens : u.finish n later c = u.reopen? := by
    cases c <;> first | rfl | cases asks
  rw [reopens, reopen?]
  cases u.dial? with
  | error status => exact ⟨_, _, rfl⟩
  | ok d =>
    have back : u.recover? = some { u with grace := none } := by simp [recover?, idle]
    rw [back]
    exact ⟨_, _, rfl⟩

/-- While its options are given an engine starts nothing. -/
theorem task_of_stage {clientId : String} (staged : c.stage (set disk) fs env clientId .fresh = (.ok (), s)) :
    s.task = none := by
  have keeps (u : NetworkEngine) (x : Setting) (unstarted : u.task = none) : (u.set disk x).2.task = none := unstarted
  exact Config.stage_keeps (P := fun u => NetworkEngine.task u = none) keeps staged rfl

/-- A connection can be opened with what an engine has kept of a configuration, unless an identifier with a space in
front was configured. The host is never in the way. -/
theorem isOk_dial_of_stage (drawn : Config.MadeUp digits)
    (staged : c.stage (set disk) fs env (c.effectiveClientId digits) .fresh = (.ok (), s)) :
    (s.settings.dial ⟨c.host, c.port, c.keepAliveSecs⟩).isOk = true ↔ c.clientId.front? ≠ some ' ' := by
  have named : c.host ≠ "" := (Config.stage_eq_ok_iff.mp staged).1.host_ne
  obtain ⟨-, -, -, security, kept, -⟩ := settings_of_stage staged
  rw [← Config.isUsable_effectiveClientId_iff drawn c.cleanSession, kept, NetworkSettings.dial]
  cases usable : (Identity.mk (c.effectiveClientId digits) c.cleanSession).isUsable <;>
    simp [usable, named, Except.isOk, Except.toBool]

end NetworkEngine

/-- An engine that has accepted a configuration replies to the connect which the configuration asks for, at once and on
every network: a success, unless an identifier that begins with a space was configured, and then a refusal. No more than
what it kept of the configuration matters for that: the reply is the same whenever the engine is asked while it has
these settings. -/
theorem reply_of_first_connect {fs disk : Files} {env : Environment} {c : Config} {digits : String}
    {s : NetworkEngine} (drawn : Config.MadeUp digits)
    (staged : c.stage (NetworkEngine.set disk) fs env (c.effectiveClientId digits) .fresh = (.ok (), s)) (n : Network) :
    let e := NetworkEngine.engine disk n
    let connect : Command := .connect c.host c.port c.keepAliveSecs
    let reply : Reply := .ofStatus (if c.clientId.front? = some ' ' then .inval else .success)
    (∀ now later, ∃ u, e.finish (e.call (e.attach s) now connect) later connect = some (reply, u)) ∧
      ∀ u v now later r, u.settings = s.settings → e.finish (e.call u now connect) later connect = some (r, v) →
        r = reply := by
  intro e connect reply
  have replies {u v : NetworkEngine} {now later : Nat} {r : Reply} (same : u.settings = s.settings)
      (done : (u.call now connect).finish n later connect = some (r, v)) : r = reply := by
    have dials : (u.call now connect).dial? = s.settings.dial ⟨c.host, c.port, c.keepAliveSecs⟩ := by
      rw [NetworkEngine.dial?_call, ← same]
      rfl
    rw [NetworkEngine.reply_of_asks rfl done, dials]
    have opens := NetworkEngine.isOk_dial_of_stage drawn staged
    by_cases spaced : c.clientId.front? = some ' ' <;> simp_all [reply]
  refine ⟨fun now later => ?_, fun u v now later r same done => @replies u v now later r same done⟩
  -- The loop of an engine that was just set up does not run, so there is nothing to wait for.
  have idle : ((e.attach s).call now connect).task = none := by
    obtain ⟨grace, stopping, eq⟩ := NetworkEngine.call_frame (e.attach s) now connect
    rw [eq]
    simp [e, NetworkEngine.engine, NetworkEngine.task_of_stage staged]
  obtain ⟨r, u, done⟩ := NetworkEngine.exists_finish_of_idle n later (c := connect) rfl idle
  exact ⟨u, replies (u := e.attach s) rfl done ▸ done⟩

/-- An engine that is given no identifier goes under a made-up one, and connects with it. -/
theorem reply_of_first_connect_unnamed :
    let e := NetworkEngine.engine .empty .unreachable
    let connect : Command := .connect "localhost" 1883 60
    ∃ digits s u, Config.MadeUp digits ∧
      (Config.ofEndpoint "" "localhost" 1883 60).stage e.set .empty [] ("mqtt-session/" ++ digits) .fresh =
        (.ok (), s) ∧
      e.finish (e.call (e.attach s) 0 connect) 0 connect = some (.ofStatus .success, u) := by
  have drawn : Config.MadeUp "0123456789abcdef0123456789abcdef" := by decide
  obtain ⟨s, staged⟩ : ∃ s, (Config.ofEndpoint "" "localhost" 1883 60).stage (NetworkEngine.set .empty) .empty []
    ((Config.ofEndpoint "" "localhost" 1883 60).effectiveClientId "0123456789abcdef0123456789abcdef") .fresh =
      (.ok (), s) := ⟨_, rfl⟩
  obtain ⟨u, done⟩ := (reply_of_first_connect drawn staged .unreachable).1 0 0
  exact ⟨_, s, u, drawn, staged, done⟩

/-- A configuration is usable, its options are accepted, and the connect that it asks for is refused. -/
theorem refused_after_staging :
    let c := Config.ofEndpoint " sensor" "localhost" 1883 60
    let e := NetworkEngine.engine .empty .unreachable
    let connect : Command := .connect c.host c.port c.keepAliveSecs
    ∃ digits s u, c.Usable .empty ∧ Config.MadeUp digits ∧
      c.stage (NetworkEngine.set .empty) .empty [] (c.effectiveClientId digits) .fresh = (.ok (), s) ∧
      e.finish (e.call (e.attach s) 0 connect) 0 connect = some (.ofStatus .inval, u) := by
  exact ⟨"0123456789abcdef0123456789abcdef", _, _, rfl, by decide, rfl, rfl⟩

end BrokerSession
