import BrokerSession.Config.Check
import BrokerSession.Config.Source

/-!
# Handing a configuration to an engine

Before the first connect an engine is given the options of a session, one after another in a fixed order, and
only those that the configuration holds. The first one that the engine refuses ends it.

## Main definitions

* `Setting` - an option with its value
* `Config.settings` - the options that a configuration holds, in their order
* `Setting.applyAll` - giving options to an engine until it refuses one
* `Config.stage` - checking a configuration and giving it to an engine
-/

namespace BrokerSession

/-- An option with its value, as it is given to an engine. -/
inductive Setting where
  | identity (clientId : String) (cleanSession : Bool) (version : ProtocolVersion)
  | reconnect (policy : RetryPolicy)
  | will (w : Config.Will)
  | credentials (k : Config.Credentials)
  | publish (p : Config.PublishTuning)
  | tlsBundle (server : Config.ServerCert) (client : Option Config.ClientCert)
  | tls (options : Config.TlsOptions)
  | psk (p : Config.Psk)
  deriving DecidableEq

namespace Setting

/-- Which option it is. -/
def option : Setting → Setup
  | identity .. => .identity
  | reconnect _ => .reconnect
  | will _ => .will
  | credentials _ => .credentials
  | publish _ => .publish
  | tlsBundle .. => .tlsBundle
  | tls _ => .tls
  | psk _ => .psk

/-- The option as the engine gets it: with its password, if it has one to fetch. -/
def resolve (env : Environment) : Setting → Except ConfigError Setting
  | credentials k => (k.resolve env).map credentials
  | x => .ok x

/-- What became of giving options to an engine in some state, with the state it is left in. -/
abbrev Outcome (σ : Type) := Except ConfigError Unit × σ

/-- Gives options to an engine until it refuses one. -/
def applyAll {σ : Type} (set : σ → Setting → Status × σ) (env : Environment) :
    List Setting → σ → Outcome σ
  | [], s => (.ok (), s)
  | x :: rest, s =>
    match x.resolve env with
    | .error e => (.error e, s)
    | .ok x =>
      let (status, s) := set s x
      if status.isSuccess then applyAll set env rest s else (.error (.rejected x.option status), s)

end Setting

namespace Config

/-- The options that a configuration holds, in the order in which an engine gets them. -/
def settings (c : Config) (clientId : String) : List Setting :=
  [.identity clientId c.cleanSession c.version, .reconnect c.retry] ++
    (c.will.map .will).toList ++
    (c.credentials.map .credentials).toList ++
    (c.publish.map .publish).toList ++
    (c.serverCert.map fun server => .tlsBundle server c.clientCert).toList ++
    (c.tls.map .tls).toList ++
    (c.psk.map .psk).toList

/-- Checks a configuration, and gives its options to an engine. -/
def stage {σ : Type} (set : σ → Setting → Status × σ) (fs : Files) (env : Environment)
    (c : Config) (clientId : String) (s : σ) : Setting.Outcome σ :=
  match c.fault? fs with
  | some e => (.error e, s)
  | none => Setting.applyAll set env (c.settings clientId) s

end Config

end BrokerSession
