import BrokerSession.Config
import BrokerSession.Config.Error
import BrokerSession.Text.Hex
import BrokerSession.Text.Blank

/-!
# Checking a configuration

The rules of a usable configuration, in the order in which they are checked: the first one that is broken is
the one that is reported. Whether a named certificate exists is asked of a tree of files.

## Main definitions

* `Config.rules` - every rule, as what it has to say about a configuration
* `Config.fault?` - the first broken rule
* `Config.validate` - the configuration, if no rule is broken
-/

namespace BrokerSession.Config

/-- An error where a condition holds. -/
def errorIf (condition : Bool) (e : ConfigError) : Option ConfigError :=
  if condition then some e else none

/-- An objection where a condition holds. -/
def objectIf (condition : Bool) (o : Objection) : Option ConfigError := errorIf condition (.invalid o)

/-- A path that has to lead somewhere. -/
def missing? (fs : Files) (path : String) : Option ConfigError :=
  errorIf (!fs.holds path) (.certificateNotFound path)

/-- The rules for the certificates that vouch for the broker. -/
def ServerCert.fault? (fs : Files) (cert : ServerCert) : Option ConfigError :=
  objectIf (cert.caFile.isNone && cert.caPath.isNone) .noTrustSource <|>
    (cert.caFile.toList ++ cert.caPath.toList).findSome? (missing? fs)

/-- The rules for the certificate of the client. -/
def ClientCert.fault? (fs : Files) (vouched : Bool) (cert : ClientCert) : Option ConfigError :=
  objectIf (!vouched) .clientCertAlone <|>
    objectIf (cert.certFile.isEmpty || cert.keyFile.isEmpty) .clientCertIncomplete <|>
    [cert.certFile, cert.keyFile].findSome? (missing? fs)

/-- The rules for a key that both ends hold. -/
def Psk.fault? (certified : Bool) (psk : Psk) : Option ConfigError :=
  objectIf certified .pskWithCertificates <|>
    objectIf psk.identity.isEmpty .emptyPskIdentity <|>
    objectIf (psk.key.isEmpty || !psk.key.toList.all Hex.isDigit) .pskKeyNotHex

/-- Every rule, in the order in which they are checked, as what it has to say about a configuration. -/
def rules (fs : Files) : List (Config → Option ConfigError) :=
  [fun c => objectIf (c.host.toList.all Blank.isBlank) .emptyHost,
   fun c => objectIf (c.port == 0) .zeroPort,
   fun c => (ClientId.fault? c.clientIdPolicy.limit? c.clientId).map .invalidClientId,
   fun c => objectIf (c.clientId.isEmpty && !c.cleanSession) .anonymousDurable,
   fun c => c.retry.fault?.map (.invalid ∘ .retry),
   fun c => c.will.bind fun w => (Topic.nameFault? w.topic).map .invalidTopic,
   fun c => c.credentials.bind fun k => objectIf k.username.isEmpty .emptyUsername,
   fun c => c.publish.bind fun p =>
     objectIf (maxInflight < p.maxInflight) (.inflightTooLarge p.maxInflight),
   fun c => c.serverCert.bind (ServerCert.fault? fs),
   fun c => c.clientCert.bind (ClientCert.fault? fs c.serverCert.isSome),
   fun c => c.psk.bind (Psk.fault? (c.serverCert.isSome || c.clientCert.isSome))]

/-- The first broken rule. -/
def fault? (fs : Files) (c : Config) : Option ConfigError := (rules fs).findSome? (· c)

/-- The configuration itself, if no rule is broken. -/
def validate (fs : Files) (c : Config) : Except ConfigError Config :=
  match c.fault? fs with
  | some e => .error e
  | none => .ok c

/-- A configuration is usable when no rule is broken. -/
def Usable (fs : Files) (c : Config) : Prop := c.fault? fs = none

instance (fs : Files) (c : Config) : Decidable (Usable fs c) :=
  inferInstanceAs (Decidable (_ = _))

theorem validate_eq_ok_iff {fs : Files} {c d : Config} :
    c.validate fs = .ok d ↔ c.Usable fs ∧ c = d := by
  unfold validate Usable
  split <;> simp_all

end BrokerSession.Config
