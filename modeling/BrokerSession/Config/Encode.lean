import BrokerSession.Config.Decode

/-!
# Writing a configuration as a tree of data

Every field is written, in the order of the record. A block or a field that is not set is written as `null` or
left out, as the reader wants it.

## Main definitions

* `Absence` - what is written for something that is not set
* `Config.encode` - a whole configuration
-/

namespace BrokerSession

/-- What is written for something that is not set. -/
inductive Absence where
  | asNull
  | leftOut
  deriving DecidableEq, Repr

namespace Encode

/-- A field that is always written. -/
def field (name : String) (d : Datum) : List (String × Datum) := [(name, d)]

/-- A field that may not be set. -/
def optional {α : Type} (absence : Absence) (name : String) (encoder : α → Datum) :
    Option α → List (String × Datum)
  | some a => [(name, encoder a)]
  | none =>
    match absence with
    | .asNull => [(name, .null)]
    | .leftOut => []

/-- The word that stands for a value. -/
def word {α : Type} [DecidableEq α] (words : List (String × α)) (a : α) : Datum :=
  .text (((words.find? (·.2 == a)).map (·.1)).getD "")

end Encode

namespace Config.Encode

open BrokerSession.Encode

/-- A retry policy. -/
def retry : RetryPolicy → Datum
  | .disabled => .table (field Decode.retryTag (.text "disabled"))
  | .backoff initial ceiling quadratic =>
    .table (field Decode.retryTag (.text "backoff") ++
      field "initial_delay_secs" (.int initial.toNat) ++
      field "max_delay_secs" (.int ceiling.toNat) ++
      field "exponential_backoff" (.bool quadratic))

/-- A payload, as a list of bytes. -/
def payload (bytes : ByteArray) : Datum :=
  .list (bytes.data.toList.map fun b => .int b.toNat)

/-- A will. -/
def will (w : Will) : Datum :=
  .table (field "topic" (.text w.topic) ++ field "payload" (payload w.payload) ++
    field "qos" (word Decode.qosWords w.qos) ++ field "retain" (.bool w.retain))

/-- Credentials. -/
def credentials (absence : Absence) (k : Credentials) : Datum :=
  .table (field "username" (.text k.username) ++
    optional absence "password" .text k.password ++
    optional absence "password_env" .text k.passwordEnv)

/-- Limits for publishes. -/
def publish (p : PublishTuning) : Datum :=
  .table (field "max_inflight_messages" (.int p.maxInflight.toNat) ++
    field "message_retry_secs" (.int p.retrySecs.toNat))

/-- The certificates that vouch for the broker. -/
def serverCert (absence : Absence) (s : ServerCert) : Datum :=
  .table (optional absence "ca_file" .text s.caFile ++ optional absence "ca_path" .text s.caPath)

/-- The certificate of the client. -/
def clientCert (absence : Absence) (k : ClientCert) : Datum :=
  .table (field "cert_file" (.text k.certFile) ++ field "key_file" (.text k.keyFile) ++
    optional absence "key_passphrase" .text k.keyPassphrase)

/-- The details of the transport security. -/
def tls (absence : Absence) (t : TlsOptions) : Datum :=
  .table (field "insecure" (.bool t.insecure) ++
    field "cert_reqs" (word Decode.peerCheckWords t.peerCheck) ++
    optional absence "tls_version" .text t.version ++ optional absence "ciphers" .text t.ciphers)

/-- A key that both ends hold. -/
def psk (absence : Absence) (p : Psk) : Datum :=
  .table (field "key" (.text p.key) ++ field "identity" (.text p.identity) ++
    optional absence "ciphers" .text p.ciphers)

end Config.Encode

/-- A whole configuration. -/
def Config.encode (absence : Absence) (c : Config) : Datum :=
  .table (Encode.field "client_id" (.text c.clientId) ++
    Encode.field "host" (.text c.host) ++
    Encode.field "port" (.int c.port.toNat) ++
    Encode.field "keep_alive_secs" (.int c.keepAliveSecs.toNat) ++
    Encode.field "clean_session" (.bool c.cleanSession) ++
    Encode.field "protocol_version" (Encode.word Decode.versionWords c.version) ++
    Encode.field "client_id_policy" (Encode.word Decode.clientIdPolicyWords c.clientIdPolicy) ++
    Encode.field "reconnect" (Config.Encode.retry c.retry) ++
    Encode.optional absence "will" Config.Encode.will c.will ++
    Encode.optional absence "credentials" (Config.Encode.credentials absence) c.credentials ++
    Encode.optional absence "publish" Config.Encode.publish c.publish ++
    Encode.optional absence "server_cert" (Config.Encode.serverCert absence) c.serverCert ++
    Encode.optional absence "client_cert" (Config.Encode.clientCert absence) c.clientCert ++
    Encode.optional absence "tls" (Config.Encode.tls absence) c.tls ++
    Encode.optional absence "psk" (Config.Encode.psk absence) c.psk)

end BrokerSession
