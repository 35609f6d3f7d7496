import BrokerSession.Config
import BrokerSession.Data.Decode

/-!
# Reading a configuration from a tree of data

A configuration is a record whose fields have defaults, apart from the name of the broker. The retry policy is
a table whose field `mode` says what the others mean, and the payload of a will is a text or a list of bytes.

## Main definitions

* `Config.Decode.retry`, `Config.Decode.will`, … - the parts
* `Config.decode` - a whole configuration
-/

namespace BrokerSession.Config.Decode

open BrokerSession.Decode

/-- The words for the guarantees. -/
def qosWords : List (String × Qos) := Qos.all.map fun q => (q.word, q)

/-- The words for the revisions of the protocol. -/
def versionWords : List (String × ProtocolVersion) := [("v31", .v31), ("v311", .v311)]

/-- The words for the policies on client identifiers. -/
def clientIdPolicyWords : List (String × ClientIdPolicy) :=
  [("strict", .strict), ("broker_defined", .brokerDefined)]

/-- The words for the checks of the broker's certificate. -/
def peerCheckWords : List (String × PeerCheck) :=
  [("verify_none", .verifyNone), ("verify_peer", .verifyPeer)]

/-- The words for the modes of a retry policy, and whether each of them retries. -/
def retryWords : List (String × Bool) := [("disabled", false), ("backoff", true)]

/-- The field that says which mode a retry policy has. -/
def retryTag : String := "mode"

/-- Whether a retry policy retries at all. -/
def retryMode : Decoder Bool
  | _, .text word => pick retryWords word
  | format, d => mismatch format d "variant identifier"

/-- The fields of a policy that retries. -/
def backoffSchema : Schema where
  title := "struct variant ReconnectPolicy::Backoff"
  fields := [("initial_delay_secs", .required), ("max_delay_secs", .required),
    ("exponential_backoff", .defaulted)]

/-- A policy that retries. -/
def backoff : Decoder RetryPolicy := fun format d => do
  let fields ← record backoffSchema
    [check "initial_delay_secs" word32 format, check "max_delay_secs" word32 format,
      check "exponential_backoff" bool format] format d
  return .backoff (← field fields "initial_delay_secs" word32 format)
    (← field fields "max_delay_secs" word32 format)
    (← fieldD fields "exponential_backoff" bool true format)

/-- A list that follows the mode of a retry policy and goes on after the last field. -/
def retrySurplus (items : List Datum) (expected : Nat) : Except DecodeFault Unit :=
  if expected < items.length then
    .error (.invalidLength items.length (toString expected ++ " elements in sequence"))
  else .ok ()

/-- A retry policy: a table with a mode, or a list that begins with one. -/
def retry : Decoder RetryPolicy
  | format, .table fields =>
    match fields.lookup retryTag with
    | none => .error (.missingField retryTag)
    | some tag => do
      if ← retryMode format tag then
        backoff format (.table (fields.filter fun (name, _) => name != retryTag))
      else return .disabled
  | _, .moment => .error (.missingField retryTag)
  | _, .list [] => .error (.missingField retryTag)
  | format, .list (tag :: items) => do
    if ← retryMode format tag then
      let policy ← backoff .toml (.list items)
      retrySurplus items backoffSchema.fields.length
      return policy
    else
      retrySurplus items 0
      return .disabled
  | format, d => mismatch format d "internally tagged enum ReconnectPolicy"

/-- A byte in a list of bytes. -/
def byte? : Datum → Option UInt8
  | .int n => if 0 ≤ n ∧ n < 256 then some (UInt8.ofNat n.toNat) else none
  | _ => none

/-- A payload: a text, which stands for its bytes, or a list of bytes. -/
def payload : Decoder ByteArray
  | _, .text s => .ok s.toByteArray
  | _, .list items =>
    match items.mapM byte? with
    | some bytes => .ok ⟨bytes.toArray⟩
    | none => .error .noPayload
  | _, _ => .error .noPayload

/-- The fields of a will. -/
def willSchema : Schema where
  title := "struct LastWill"
  fields := [("topic", .required), ("payload", .required), ("qos", .defaulted),
    ("retain", .defaulted)]

/-- A will. -/
def will : Decoder Will := fun format d => do
  let fields ← record willSchema
    [check "topic" text format, check "payload" payload format,
      check "qos" (choice qosWords) format, check "retain" bool format] format d
  return {
    topic := ← field fields "topic" text format
    payload := ← field fields "payload" payload format
    qos := ← fieldD fields "qos" (choice qosWords) .atMostOnce format
    retain := ← fieldD fields "retain" bool false format }

/-- The fields of credentials. -/
def credentialsSchema : Schema where
  title := "struct Credentials"
  fields := [("username", .required), ("password", .absent), ("password_env", .absent)]

/-- Credentials. -/
def credentials : Decoder Credentials := fun format d => do
  let fields ← record credentialsSchema
    [check "username" text format, check "password" (optional text) format,
      check "password_env" (optional text) format] format d
  return {
    username := ← field fields "username" text format
    password := ← fieldD fields "password" (optional text) none format
    passwordEnv := ← fieldD fields "password_env" (optional text) none format }

/-- The fields of the limits for publishes. -/
def publishSchema : Schema where
  title := "struct PublishTuning"
  fields := [("max_inflight_messages", .required), ("message_retry_secs", .required)]

/-- Limits for publishes. -/
def publish : Decoder PublishTuning := fun format d => do
  let fields ← record publishSchema
    [check "max_inflight_messages" word32 format, check "message_retry_secs" word32 format]
    format d
  return {
    maxInflight := ← field fields "max_inflight_messages" word32 format
    retrySecs := ← field fields "message_retry_secs" word32 format }

/-- The fields of the certificates that vouch for the broker. -/
def serverCertSchema : Schema where
  title := "struct ServerCert"
  fields := [("ca_file", .absent), ("ca_path", .absent)]

/-- The certificates that vouch for the broker. -/
def serverCert : Decoder ServerCert := fun format d => do
  let fields ← record serverCertSchema
    [check "ca_file" (optional path) format, check "ca_path" (optional path) format] format d
  return {
    caFile := ← fieldD fields "ca_file" (optional path) none format
    caPath := ← fieldD fields "ca_path" (optional path) none format }

/-- The fields of the certificate of the client. -/
def clientCertSchema : Schema where
  title := "struct ClientCert"
  fields := [("cert_file", .required), ("key_file", .required), ("key_passphrase", .absent)]

/-- The certificate of the client. -/
def clientCert : Decoder ClientCert := fun format d => do
  let fields ← record clientCertSchema
    [check "cert_file" path format, check "key_file" path format,
      check "key_passphrase" (optional text) format] format d
  return {
    certFile := ← field fields "cert_file" path format
    keyFile := ← field fields "key_file" path format
    keyPassphrase := ← fieldD fields "key_passphrase" (optional text) none format }

/-- The fields of the details of the transport security. -/
def tlsSchema : Schema where
  title := "struct TlsOptions"
  fields := [("insecure", .defaulted), ("cert_reqs", .defaulted), ("tls_version", .absent),
    ("ciphers", .absent)]

/-- The details of the transport security. -/
def tls : Decoder TlsOptions := fun format d => do
  let fields ← record tlsSchema
    [check "insecure" bool format, check "cert_reqs" (choice peerCheckWords) format,
      check "tls_version" (optional text) format, check "ciphers" (optional text) format] format d
  return {
    insecure := ← fieldD fields "insecure" bool false format
    peerCheck := ← fieldD fields "cert_reqs" (choice peerCheckWords) default format
    version := ← fieldD fields "tls_version" (optional text) none format
    ciphers := ← fieldD fields "ciphers" (optional text) none format }

/-- The fields of a key that both ends hold. -/
def pskSchema : Schema where
  title := "struct Psk"
  fields := [("key", .required), ("identity", .required), ("ciphers", .absent)]

/-- A key that both ends hold. -/
def psk : Decoder Psk := fun format d => do
  let fields ← record pskSchema
    [check "key" text format, check "identity" text format,
      check "ciphers" (optional text) format] format d
  return {
    key := ← field fields "key" text format
    identity := ← field fields "identity" text format
    ciphers := ← fieldD fields "ciphers" (optional text) none format }

/-- The fields of a configuration. -/
def schema : Schema where
  title := "struct MqttConfig"
  fields := [("client_id", .defaulted), ("host", .required), ("port", .defaulted),
    ("keep_alive_secs", .defaulted), ("clean_session", .defaulted),
    ("protocol_version", .defaulted), ("client_id_policy", .defaulted),
    ("reconnect", .defaulted), ("will", .absent), ("credentials", .absent), ("publish", .absent),
    ("server_cert", .absent), ("client_cert", .absent), ("tls", .absent), ("psk", .absent)]

/-- How each field of a configuration is read. -/
def checks (format : DataFormat) : List FieldCheck :=
  [check "client_id" text format, check "host" text format, check "port" word16 format,
    check "keep_alive_secs" word16 format, check "clean_session" bool format,
    check "protocol_version" (choice versionWords) format,
    check "client_id_policy" (choice clientIdPolicyWords) format,
    check "reconnect" retry format, check "will" (optional will) format,
    check "credentials" (optional credentials) format,
    check "publish" (optional publish) format,
    check "server_cert" (optional serverCert) format,
    check "client_cert" (optional clientCert) format, check "tls" (optional tls) format,
    check "psk" (optional psk) format]

end BrokerSession.Config.Decode

namespace BrokerSession.Config

open BrokerSession.Decode

/-- A whole configuration. -/
def decode : Decoder Config := fun format d => do
  let fields ← record Decode.schema (Decode.checks format) format d
  return {
    clientId := ← fieldD fields "client_id" text "" format
    host := ← field fields "host" text format
    port := ← fieldD fields "port" word16 defaultPort format
    keepAliveSecs := ← fieldD fields "keep_alive_secs" word16 defaultKeepAlive format
    cleanSession := ← fieldD fields "clean_session" bool true format
    version := ← fieldD fields "protocol_version" (choice Decode.versionWords) default format
    clientIdPolicy :=
      ← fieldD fields "client_id_policy" (choice Decode.clientIdPolicyWords) default format
    retry := ← fieldD fields "reconnect" Decode.retry default format
    will := ← fieldD fields "will" (optional Decode.will) none format
    credentials := ← fieldD fields "credentials" (optional Decode.credentials) none format
    publish := ← fieldD fields "publish" (optional Decode.publish) none format
    serverCert := ← fieldD fields "server_cert" (optional Decode.serverCert) none format
    clientCert := ← fieldD fields "client_cert" (optional Decode.clientCert) none format
    tls := ← fieldD fields "tls" (optional Decode.tls) none format
    psk := ← fieldD fields "psk" (optional Decode.psk) none format }

end BrokerSession.Config
