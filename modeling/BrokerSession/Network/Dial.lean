import BrokerSession.Network.Settings

/-!
# What a connection is opened with

Everything that a connection is opened with is put together from the settings of an engine and the address of
the broker. Without an identity that a broker could accept, or without a host, there is no connection.

## Main definitions

* `Endpoint` - the address of a broker
* `Dial` - what a connection is opened with
* `NetworkSettings.dial` - putting it together

## Main results

* `NetworkSettings.eq_of_dial` - a connection is opened with the settings as they are
-/

namespace BrokerSession

/-- The address of a broker, with the seconds between pings. -/
structure Endpoint where
  host : String
  port : UInt16
  keepAliveSecs : UInt16
  deriving DecidableEq, Repr

/-- What a connection is opened with. -/
structure Dial where
  clientId : String
  host : String
  port : UInt16
  keepAliveSecs : UInt16
  cleanSession : Bool
  login : Option (String × String)
  window : UInt16
  maxPacketSize : Nat
  will : Option Config.Will
  security : Security
  deriving DecidableEq

/-- The window of messages in flight, unless it was set. -/
def defaultWindow : UInt16 := 100

/-- Whether a broker could accept an identity. -/
def Identity.isUsable (i : Identity) : Bool := !i.clientId.isEmpty && i.clientId.front? != some ' '

/-- What a connection to a broker is opened with. -/
def NetworkSettings.dial (s : NetworkSettings) (e : Endpoint) : Except Status Dial :=
  match s.identity with
  | none => .error .inval
  | some i =>
    if i.isUsable && !e.host.isEmpty then
      .ok {
        clientId := i.clientId
        host := e.host
        port := e.port
        keepAliveSecs := e.keepAliveSecs
        cleanSession := i.cleanSession
        login := s.login
        window := s.window.getD defaultWindow
        maxPacketSize
        will := s.will
        security := s.security }
    else .error .inval

/-- A connection is opened for an identity, and with the settings as they are. -/
theorem NetworkSettings.eq_of_dial {s : NetworkSettings} {e : Endpoint} {d : Dial} (dialled : s.dial e = .ok d) :
    ∃ i, s.identity = some i ∧ d = {
      clientId := i.clientId
      host := e.host
      port := e.port
      keepAliveSecs := e.keepAliveSecs
      cleanSession := i.cleanSession
      login := s.login
      window := s.window.getD defaultWindow
      maxPacketSize
      will := s.will
      security := s.security } := by
  rw [dial] at dialled
  cases identity : s.identity with
  | none =>
    rw [identity] at dialled
    cases dialled
  | some i =>
    rw [identity] at dialled
    dsimp only at dialled
    split at dialled <;> cases dialled
    exact ⟨i, rfl, rfl⟩

end BrokerSession
