import BrokerSession.Data.Decode
import BrokerSession.Files
import BrokerSession.Status
import BrokerSession.Topic
import BrokerSession.Retry

/-!
# What can be wrong with a configuration

A configuration may be unreadable, contradict itself, or ask for what an engine refuses. Each cause has its
own text; a session reports causes of its own beside them.

## Main definitions

* `Setup` - the options that are handed to an engine
* `Objection` - why settings cannot be used together
* `ConfigError`, `ConfigError.message` - what is wrong with a configuration
* `SessionError`, `SessionError.message`, `SessionError.status` - why a session operation failed
-/

namespace BrokerSession

/-- The options that are handed to an engine, one after another, before the first connect. -/
inductive Setup where
  | identity
  | reconnect
  | will
  | credentials
  | publish
  | tlsBundle
  | tls
  | psk
  deriving DecidableEq, Repr

/-- The word for an option. -/
def Setup.word : Setup → String
  | identity => "identity"
  | reconnect => "reconnect"
  | will => "will"
  | credentials => "credentials"
  | publish => "publish"
  | tlsBundle => "tls_bundle"
  | tls => "tls"
  | psk => "psk"

/-- Why settings cannot be used, alone or together. -/
inductive Objection where
  | emptyHost
  | zeroPort
  | anonymousDurable
  | retry (fault : RetryPolicy.Fault)
  | emptyUsername
  | inflightTooLarge (count : UInt32)
  | noTrustSource
  | clientCertAlone
  | clientCertIncomplete
  | pskWithCertificates
  | emptyPskIdentity
  | pskKeyNotHex
  /-- An objection of somebody else, in words of their own. -/
  | other (text : String)
  deriving DecidableEq, Repr

/-- The largest window of unacknowledged messages. -/
def maxInflight : UInt32 := 65535

/-- The text of an objection. -/
def Objection.message : Objection → String
  | emptyHost => "host must not be empty"
  | zeroPort => "port must not be 0"
  | anonymousDurable => "an empty client_id requires clean_session = true"
  | retry fault => fault.message
  | emptyUsername => "credentials.username must not be empty"
  | inflightTooLarge count =>
    "max_inflight_messages " ++ toString count.toNat ++ " exceeds " ++ toString maxInflight.toNat
  | noTrustSource => "server_cert needs ca_file or ca_path"
  | clientCertAlone => "client_cert requires server_cert"
  | clientCertIncomplete => "client_cert needs both cert_file and key_file"
  | pskWithCertificates => "psk cannot be combined with certificates"
  | emptyPskIdentity => "psk.identity must not be empty"
  | pskKeyNotHex => "psk.key must be hexadecimal"
  | other text => text

/-- What is wrong with a configuration. -/
inductive ConfigError where
  /-- The file cannot be read. -/
  | unreadable (fault : FileFault)
  /-- The text is no TOML document. -/
  | malformed
  /-- The document does not describe a configuration. -/
  | misshapen (fault : DecodeFault)
  | envVarNotFound (name : String)
  | invalidClientId (fault : TopicFault)
  | invalidTopic (fault : TopicFault)
  | invalidUrl (text : String)
  | certificateNotFound (path : String)
  | invalid (objection : Objection)
  /-- The engine refused an option. -/
  | rejected (option : Setup) (status : Status)
  deriving DecidableEq, Repr

/-- The text of an error. -/
def ConfigError.message : ConfigError → String
  | unreadable fault => "Failed to read config file: " ++ fault.message
  | malformed => "Failed to parse TOML: malformed document"
  | misshapen fault => "Failed to parse TOML: " ++ fault.message
  | envVarNotFound name => "Environment variable not found: " ++ name
  | invalidClientId fault => "Invalid client ID: " ++ fault.message
  | invalidTopic fault => "Invalid topic: " ++ fault.message
  | invalidUrl text => "Invalid broker URL: " ++ text
  | certificateNotFound path => "Certificate path does not exist: " ++ path
  | invalid objection => "Invalid configuration: " ++ objection.message
  | rejected option status => "Engine rejected " ++ option.word ++ ": " ++ status.message

/-- Why a session operation failed. Failures of the network and of the broker are not among them: they are
statuses of replies. -/
inductive SessionError where
  | config (error : ConfigError)
  /-- There is nothing to run the worker of the session on. -/
  | noRuntime
  | queueClosed
  deriving DecidableEq, Repr

namespace SessionError

/-- The text of an error. -/
def message : SessionError → String
  | config error => "Configuration error: " ++ error.message
  | noRuntime => "No tokio runtime available to host the session worker"
  | queueClosed => "Session command queue is closed"

/-- The status that comes closest to an error. -/
def status : SessionError → Status
  | config (.rejected _ status) => status
  | config _ => .inval
  | noRuntime => .unknown
  | queueClosed => .noConn

end SessionError

end BrokerSession
