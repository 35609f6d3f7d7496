import BrokerSession.Proofs.MessageIds
import BrokerSession.Proofs.Network.FirstConnect

/-!
# A library that connections are opened with

An engine opens a connection through a library, which it first tells with whom, and then one particular after the other.
Such a library does not complain about what it cannot use: it asserts that it can, and whoever trips an assertion is
brought down. It wants a client with an identifier that does not begin with a space, a broker with a name, a window that
has room, and no time between pings that is shorter than a second, unless there are no pings. All of this can be
configured otherwise. An engine refuses the identifier and the name before it turns to the library, keeps no window
without room, and counts the time between pings in seconds. So it trips no assertion, whatever it was told.

## Main definitions

* `Particular` - what a library is told about a connection, and `Particular.Sound` for what it can use
* `Dialer` - a library, and `Dialer.Documented` for one that is brought down by nothing else
* `Dialer.strict` - a library that asserts all that it wants
* `NetworkSettings.assemble` - what an engine tells a library

## Main results

* `Particular.sound_of_mem` - a library can use every particular that it is told
* `NetworkSettings.assemble_strict` - what a strict library makes of it is what a connection is opened with
* `Workshop.assembled_of_life` - whatever has happened, an engine refuses to connect or trips no assertion
-/

namespace BrokerSession

/-- A span of time as a library counts it, in whole seconds and in what is left. -/
structure Span where
  secs : Nat
  nanos : Nat
  left : nanos < 1000000000
  deriving DecidableEq

/-- So many seconds. -/
def Span.ofSecs (secs : Nat) : Span := ⟨secs, 0, by decide⟩

/-- What a library is told about a connection. -/
inductive Particular where
  | cleanSession (clean : Bool)
  | keepAlive (span : Span)
  | packetSizes (incoming outgoing : Nat)
  | login (user password : String)
  | window (size : UInt16)
  | will (w : Config.Will)
  | systemRoots
  | bundle (b : Security.Bundle)

/-- What a library can use. -/
def Particular.Sound : Particular → Prop
  | keepAlive span => span = .ofSecs 0 ∨ 1 ≤ span.secs
  | window size => 0 < size
  | _ => True

instance : DecidablePred Particular.Sound
  | .keepAlive span => inferInstanceAs (Decidable (span = .ofSecs 0 ∨ 1 ≤ span.secs))
  | .window size => inferInstanceAs (Decidable (0 < size))
  | .cleanSession _ | .packetSizes .. | .login .. | .will _ | .systemRoots | .bundle _ => .isTrue trivial

/-- A library that connections are opened with, with what it keeps of them in `κ`. There is nothing to keep where it is
brought down. -/
structure Dialer (κ : Type) where
  create (clientId host : String) (port : UInt16) : Option κ
  tell (o : κ) (x : Particular) : Option κ

namespace Dialer

/-- Whether a library wants a connection between a client and a broker. -/
def Wants (clientId host : String) : Prop := clientId ≠ "" ∧ clientId.front? ≠ some ' ' ∧ host ≠ ""

instance (clientId host : String) : Decidable (Wants clientId host) :=
  inferInstanceAs (Decidable (clientId ≠ "" ∧ clientId.front? ≠ some ' ' ∧ host ≠ ""))

/-- Nothing brings a library down but what it says that it cannot use. -/
structure Documented {κ : Type} (d : Dialer κ) : Prop where
  create : ∀ clientId host port, Wants clientId host → ∃ o, d.create clientId host port = some o
  tell : ∀ o x, Particular.Sound x → ∃ u, d.tell o x = some u

end Dialer

/-! ## A strict library -/

namespace Dial

/-- What a connection is opened with as long as nothing is told about it. -/
def untold (clientId host : String) (port : UInt16) : Dial where
  clientId
  host
  port
  keepAliveSecs := 60
  cleanSession := true
  login := none
  window := defaultWindow
  maxPacketSize := 10240
  will := none
  security := .plain

/-- Keeps what is told. -/
def keep (o : Dial) : Particular → Dial
  | .cleanSession cleanSession => { o with cleanSession }
  | .keepAlive span => { o with keepAliveSecs := .ofNat span.secs }
  | .packetSizes incoming _ => { o with maxPacketSize := incoming }
  | .login user password => { o with login := some (user, password) }
  | .window window => { o with window }
  | .will w => { o with will := some w }
  | .systemRoots => { o with security := .systemRoots }
  | .bundle b => { o with security := .bundle b }

end Dial

/-- A library that asserts all that it wants, and keeps what a connection is opened with. -/
def Dialer.strict : Dialer Dial where
  create clientId host port := if Wants clientId host then some (.untold clientId host port) else none
  tell o x := if x.Sound then some (o.keep x) else none

/-! ## What an engine tells a library -/

/-- What a library is told about the security of a connection. -/
def Security.particulars : Security → List Particular
  | plain => []
  | systemRoots => [.systemRoots]
  | bundle b => [.bundle b]

/-- What a library is told about a connection, in this order. -/
def NetworkSettings.particulars (s : NetworkSettings) (clean : Bool) (e : Endpoint) : List Particular :=
  [.cleanSession clean, .keepAlive (.ofSecs e.keepAliveSecs.toNat), .packetSizes maxPacketSize maxPacketSize] ++
    (s.login.map fun (user, password) => .login user password).toList ++
    (s.window.map .window).toList ++
    (s.will.map .will).toList ++
    s.security.particulars

/-- What a library makes of the connection that an engine wants to a broker, unless the engine refuses that itself. -/
def NetworkSettings.assemble {κ : Type} (d : Dialer κ) (s : NetworkSettings) (e : Endpoint) :
    Except Status (Option κ) :=
  match s.identity with
  | none => .error .inval
  | some i =>
    if i.isUsable && !e.host.isEmpty then
      .ok ((d.create i.clientId e.host e.port).bind fun o => (s.particulars i.cleanSession e).foldlM d.tell o)
    else .error .inval

/-- What a library makes of the connection that an engine wants to the broker that it remembers. -/
def NetworkEngine.assembled {κ : Type} (d : Dialer κ) (s : NetworkEngine) : Except Status (Option κ) :=
  match s.endpoint with
  | none => .error .inval
  | some e => s.settings.assemble d e

variable {κ : Type} {d : Dialer κ} {s : NetworkSettings} {i : Identity} {e : Endpoint} {clean : Bool}
  {xs : List Particular}

/-! ## What a library can use -/

namespace Particular

/-- Whole seconds are none, or at least one. -/
theorem sound_keepAlive (secs : Nat) : (keepAlive (.ofSecs secs)).Sound := by
  rcases Nat.eq_zero_or_pos secs with rfl | some
  · exact .inl rfl
  · exact .inr some

theorem sound_of_mem_security {x : Particular} {security : Security} (told : x ∈ security.particulars) : x.Sound := by
  cases security with
  | plain => cases told
  | _ =>
    obtain rfl := List.mem_singleton.mp told
    trivial

/-- A library can use every particular that it is told, if the window that an engine keeps has room. -/
theorem sound_of_mem {x : Particular} (roomy : ∀ size, s.window = some size → 0 < size)
    (told : x ∈ s.particulars clean e) : x.Sound := by
  simp only [NetworkSettings.particulars, List.mem_append, List.mem_cons, List.not_mem_nil, or_false,
    Option.mem_toList, Option.map_eq_some_iff] at told
  rcases told with ((((rfl | rfl | rfl) | ⟨k, -, rfl⟩) | ⟨size, given, rfl⟩) | ⟨w, -, rfl⟩) | secured
  · trivial
  · exact sound_keepAlive _
  · trivial
  · trivial
  · exact roomy size given
  · trivial
  · exact sound_of_mem_security secured

end Particular

namespace Dialer

/-- A library that is told nothing but what it can use is not brought down. -/
theorem Documented.foldlM_tell (documented : d.Documented) (sound : ∀ x ∈ xs, x.Sound) (o : κ) :
    ∃ u, xs.foldlM d.tell o = some u := by
  induction xs generalizing o with
  | nil => exact ⟨o, rfl⟩
  | cons x xs ih =>
    obtain ⟨first, others⟩ := List.forall_mem_cons.mp sound
    obtain ⟨u, told⟩ := documented.tell o x first
    obtain ⟨v, rest⟩ := ih others u
    refine ⟨v, ?_⟩
    rw [List.foldlM_cons, told]
    exact rest

theorem documented_strict : strict.Documented where
  create _ _ _ wanted := ⟨_, if_pos wanted⟩
  tell _ _ sound := ⟨_, if_pos sound⟩

/-- A strict library keeps all that it is told, if it can use it. -/
theorem foldlM_strict (sound : ∀ x ∈ xs, x.Sound) (o : Dial) :
    xs.foldlM strict.tell o = some (xs.foldl Dial.keep o) := by
  induction xs generalizing o with
  | nil => rfl
  | cons x xs ih =>
    obtain ⟨first, others⟩ := List.forall_mem_cons.mp sound
    have told : strict.tell o x = some (o.keep x) := if_pos first
    rw [List.foldlM_cons, told]
    exact ih others _

end Dialer

namespace NetworkSettings

/-- Whether an engine refuses a connection itself. -/
theorem usable_iff : (i.isUsable && !e.host.isEmpty) = true ↔ Dialer.Wants i.clientId e.host := by
  simp [Dialer.Wants, Identity.isUsable_iff, and_assoc]

/-- An engine refuses to turn to a library exactly where the library would not want the connection. -/
theorem assemble_eq_error (unwanted : ∀ i, s.identity = some i → ¬ Dialer.Wants i.clientId e.host) :
    s.assemble d e = .error .inval := by
  unfold assemble
  cases identity : s.identity with
  | none => rfl
  | some i => exact if_neg (usable_iff.not.mpr (unwanted i identity))

theorem assemble_eq_ok (documented : d.Documented) (roomy : ∀ size, s.window = some size → 0 < size)
    (identity : s.identity = some i) (wanted : Dialer.Wants i.clientId e.host) :
    ∃ o, s.assemble d e = .ok (some o) := by
  obtain ⟨o, created⟩ := documented.create i.clientId e.host e.port wanted
  obtain ⟨u, told⟩ := documented.foldlM_tell (fun x => Particular.sound_of_mem roomy) o
  refine ⟨u, ?_⟩
  simp only [assemble, identity, if_pos (usable_iff.mpr wanted), created, Option.bind_some]
  rw [told]

/-- All that is told about a connection, kept. -/
theorem foldl_keep_particulars (s : NetworkSettings) (i : Identity) (e : Endpoint) :
    (s.particulars i.cleanSession e).foldl Dial.keep (.untold i.clientId e.host e.port) = {
      clientId := i.clientId
      host := e.host
      port := e.port
      keepAliveSecs := e.keepAliveSecs
      cleanSession := i.cleanSession
      login := s.login
      window := s.window.getD defaultWindow
      maxPacketSize
      will := s.will
      security := s.security } := by
  have seconds : UInt16.ofNat (Span.ofSecs e.keepAliveSecs.toNat).secs = e.keepAliveSecs := UInt16.ofNat_toNat
  obtain ⟨identity, policy, will, login, window, security⟩ := s
  cases will <;> cases login <;> cases window <;> cases security <;>
    simp [particulars, Security.particulars, Dial.keep, Dial.untold, seconds]

/-- What a strict library makes of it is what a connection is opened with. -/
theorem assemble_strict (roomy : ∀ size, s.window = some size → 0 < size) :
    s.assemble .strict e = (s.dial e).map some := by
  cases identity : s.identity with
  | none => simp only [assemble, dial, identity, Except.map]
  | some i =>
    by_cases wanted : Dialer.Wants i.clientId e.host
    · have created : Dialer.strict.create i.clientId e.host e.port = some (.untold i.clientId e.host e.port) :=
        if_pos wanted
      simp only [assemble, dial, identity, if_pos (usable_iff.mpr wanted), Except.map, created, Option.bind_some]
      rw [Dialer.foldlM_strict fun x => Particular.sound_of_mem roomy, foldl_keep_particulars]
    · simp only [assemble, dial, identity, if_neg (usable_iff.not.mpr wanted), Except.map]

/-- A window without room would trip an assertion. -/
example :
    ({ start with identity := some ⟨"sensor", true⟩, window := some 0 }).assemble .strict ⟨"broker", 1883, 60⟩ =
      .ok none := by
  decide

end NetworkSettings

/-! ## Whatever an engine was told -/

namespace NetworkEngine

variable {s : NetworkEngine}

/-- Takes options, one after the other, whatever becomes of them. The files need not stay the same. -/
def told (s : NetworkEngine) (xs : List (Files × Setting)) : NetworkEngine :=
  xs.foldl (fun s (fs, x) => (s.set fs x).2) s

/-- Whether there is somebody to open a connection for, and somebody to open it to. -/
def Dialable (s : NetworkEngine) : Prop :=
  ∃ i e, s.settings.identity = some i ∧ s.endpoint = some e ∧ Dialer.Wants i.clientId e.host

theorem Roomy.told (roomy : s.Roomy) (xs : List (Files × Setting)) : (s.told xs).Roomy := by
  induction xs generalizing s with
  | nil => exact roomy
  | cons x xs ih => exact ih (roomy.set x.2)

theorem Roomy.call (roomy : s.Roomy) (now : Nat) (c : Command) : (s.call now c).Roomy := by
  obtain ⟨grace, stopping, eq⟩ := call_frame s now c
  rw [eq]
  exact roomy

theorem assembled_eq_error (undialable : ¬ s.Dialable) : s.assembled d = .error .inval := by
  unfold assembled
  cases endpoint : s.endpoint with
  | none => rfl
  | some e =>
    exact NetworkSettings.assemble_eq_error fun i identity wanted => undialable ⟨i, e, identity, endpoint, wanted⟩

theorem assembled_eq_ok (documented : d.Documented) (roomy : s.Roomy) (dialable : s.Dialable) :
    ∃ o, s.assembled d = .ok (some o) := by
  obtain ⟨i, e, identity, endpoint, wanted⟩ := dialable
  rw [assembled, endpoint]
  exact NetworkSettings.assemble_eq_ok documented roomy identity wanted

theorem assembled_strict (roomy : s.Roomy) : s.assembled .strict = s.dial?.map some := by
  unfold assembled dial?
  cases s.endpoint with
  | none => rfl
  | some e => exact NetworkSettings.assemble_strict roomy

/-- An engine can open a connection exactly if there is somebody to open it for, and somebody to open it to. -/
theorem isOk_dial?_iff (roomy : s.Roomy) : s.dial?.isOk = true ↔ s.Dialable := by
  have strict := assembled_strict roomy
  by_cases dialable : s.Dialable
  · obtain ⟨o, made⟩ := assembled_eq_ok Dialer.documented_strict roomy dialable
    rw [made] at strict
    cases dials : s.dial? with
    | error status => simp [dials, Except.map] at strict
    | ok o => exact ⟨fun _ => dialable, fun _ => rfl⟩
  · rw [assembled_eq_error dialable] at strict
    cases dials : s.dial? with
    | error status => exact ⟨nofun, fun there => absurd there dialable⟩
    | ok o => simp [dials, Except.map] at strict

end NetworkEngine

namespace Workshop

variable {fs : Files} {n : Network} {h : List (Incident LoopIncident)} {busy : Option Command} {w : Workshop}

/-- Whatever has happened to an engine, whatever options it was given then, taken or refused, and whatever it hears
then: if there is nobody to open a connection for, or to, it says so and does not turn to the library; if there is, the
library is not brought down by what it is told. What a strict library makes of it is what the engine opens a connection
with, and the answer to somebody who asks for a connection says no more than whether there was one to open. -/
theorem assembled_of_life (documented : d.Documented) (life : Lives fs n h busy w) (xs : List (Files × Setting))
    (now : Nat) (c : Command) :
    let s := (w.engine.told xs).call now c
    s.Roomy ∧
      (¬ s.Dialable → s.assembled d = .error .inval) ∧
      (s.Dialable → ∃ o, s.assembled d = .ok (some o)) ∧
      s.assembled .strict = s.dial?.map some ∧
      ∀ later r u, c.asks = true → s.finish n later c = some (r, u) →
        (s.Dialable → r.status = .success) ∧ (¬ s.Dialable → r.status = .inval) := by
  intro s
  have roomy : s.Roomy := ((roomy_of_life life).told xs).call now c
  refine ⟨roomy, NetworkEngine.assembled_eq_error, NetworkEngine.assembled_eq_ok documented roomy,
    NetworkEngine.assembled_strict roomy, fun later r u asks done => ?_⟩
  have dials := NetworkEngine.isOk_dial?_iff roomy
  rw [NetworkEngine.reply_of_asks asks done]
  exact ⟨fun dialable => by rw [if_pos (dials.mpr dialable)]; rfl,
    fun undialable => by rw [if_neg (dials.not.mpr undialable)]; rfl⟩

/-- An engine is given an identifier, which it refuses with the version that comes with it, then another one, and a
limit that is too large for a window. It connects without pings, in the largest window. It does not connect without a
broker, nor once it is given an identifier that begins with a space. -/
theorem assembled_of_life_tuned :
    let xs : List (Files × Setting) := [(.empty, .identity " sensor" true .v31),
      (.empty, .identity "sensor" false .v311), (.empty, .publish ⟨65536, 0⟩)]
    let s := NetworkEngine.fresh.told xs
    let spaced := NetworkEngine.fresh.told (xs ++ [(.empty, .identity " sensor" true .v311)])
    let broker : Command := .connect "broker" 1883 0
    (∃ o, (s.call 0 broker).assembled .strict = .ok (some o)) ∧
      (s.call 0 broker).dial?.map (fun o => (o.window, o.keepAliveSecs)) = .ok (65535, 0) ∧
      (s.call 0 .reconnect).assembled Dialer.strict = .error .inval ∧
      (spaced.call 0 broker).assembled Dialer.strict = .error .inval := by
  intro xs s spaced broker
  have new : Lives .empty .unreachable [] none .fresh := .begin
  have holds (xs : List (Files × Setting)) := assembled_of_life Dialer.documented_strict new xs 0
  have dialable : (s.call 0 broker).Dialable :=
    ⟨⟨"sensor", false⟩, ⟨"broker", 1883, 0⟩, rfl, rfl, by decide⟩
  have unwanted : ¬ (spaced.call 0 broker).Dialable := by
    rintro ⟨i, e, identity, -, -, solid, -⟩
    cases identity
    exact absurd solid (by decide)
  exact ⟨(holds xs broker).2.2.1 dialable, rfl, (holds xs .reconnect).2.1 nofun, (holds _ broker).2.1 unwanted⟩

end Workshop

end BrokerSession
