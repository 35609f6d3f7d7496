import BrokerSession.Bytes
import BrokerSession.Qos
import BrokerSession.Retry
import BrokerSession.Topic

/-!
# The settings of a session

A configuration is plain data: the broker to talk to, how the session presents itself, and the blocks that
may be left out. It is checked once and then handed to a session, which never changes it.

## Main definitions

* `Config` - all settings of one session
* `Config.Will`, `Config.Credentials`, `Config.PublishTuning`, `Config.ServerCert`, `Config.ClientCert`,
  `Config.TlsOptions`, `Config.Psk` - the blocks that may be left out
* `Config.ofEndpoint` - the defaults for everything but the broker
* `Config.usesTls` - whether some block asks for transport security
* `Config.effectiveClientId` - the client identifier that is used when none is configured
-/

namespace BrokerSession

/-- The revision of the protocol that is asked for. -/
inductive ProtocolVersion where
  | v31
  | v311
  deriving DecidableEq, Repr

/-- The current revision, unless the older one is asked for. -/
instance : Inhabited ProtocolVersion := ⟨.v311⟩

/-- How strictly the length of a client identifier is checked before the broker sees it. -/
inductive ClientIdPolicy where
  /-- Within the limit of MQTT 3.1. -/
  | strict
  /-- Left to the broker. -/
  | brokerDefined
  deriving DecidableEq, Repr

/-- The broker decides, unless the check is asked for. -/
instance : Inhabited ClientIdPolicy := ⟨.brokerDefined⟩

/-- The longest client identifier that a policy lets through. -/
def ClientIdPolicy.limit? : ClientIdPolicy → Option Nat
  | strict => some ClientId.strictLimit
  | brokerDefined => none

/-- Whether the certificate of the broker is verified. -/
inductive PeerCheck where
  | verifyNone
  | verifyPeer
  deriving DecidableEq, Repr

/-- Certificates are verified, unless that is turned off. -/
instance : Inhabited PeerCheck := ⟨.verifyPeer⟩

namespace Config

/-- The message that the broker publishes when the session dies unexpectedly. -/
structure Will where
  topic : String
  payload : ByteArray
  qos : Qos
  retain : Bool
  deriving DecidableEq

/-- A user name with a password. -/
structure Credentials where
  username : String
  password : Option String
  /-- The environment variable that holds the password when none is written down. -/
  passwordEnv : Option String
  deriving DecidableEq, Repr

/-- Limits for outgoing publishes. -/
structure PublishTuning where
  maxInflight : UInt32
  retrySecs : UInt32
  deriving DecidableEq, Repr

/-- Where the certificates are that vouch for the broker. -/
structure ServerCert where
  caFile : Option String
  caPath : Option String
  deriving DecidableEq, Repr

/-- The certificate that is shown to the broker. -/
structure ClientCert where
  certFile : String
  keyFile : String
  keyPassphrase : Option String
  deriving DecidableEq, Repr

/-- Details of the transport security. -/
structure TlsOptions where
  /-- Whether the name of the broker goes unverified. -/
  insecure : Bool
  peerCheck : PeerCheck
  version : Option String
  ciphers : Option String
  deriving DecidableEq, Repr

/-- The options that ask for nothing special. -/
instance : Inhabited TlsOptions := ⟨⟨false, default, none, none⟩⟩

/-- A key that both ends hold already. -/
structure Psk where
  /-- The key, in hexadecimal. -/
  key : String
  identity : String
  ciphers : Option String
  deriving DecidableEq, Repr

end Config

/-- All settings of one session. -/
structure Config where
  /-- Empty when one is to be made up for each session. -/
  clientId : String
  host : String
  port : UInt16
  /-- Seconds without traffic before a ping; zero for none. -/
  keepAliveSecs : UInt16
  cleanSession : Bool
  version : ProtocolVersion
  clientIdPolicy : ClientIdPolicy
  retry : RetryPolicy
  will : Option Config.Will
  credentials : Option Config.Credentials
  publish : Option Config.PublishTuning
  serverCert : Option Config.ServerCert
  clientCert : Option Config.ClientCert
  tls : Option Config.TlsOptions
  psk : Option Config.Psk
  deriving DecidableEq

namespace Config

/-- The port of a broker, unless another one is configured. -/
def defaultPort : UInt16 := 1883

/-- The seconds between pings, unless configured otherwise. -/
def defaultKeepAlive : UInt16 := 60

/-- The defaults for everything but the broker. -/
def ofEndpoint (clientId host : String) (port keepAliveSecs : UInt16) : Config where
  clientId
  host
  port
  keepAliveSecs
  cleanSession := true
  version := default
  clientIdPolicy := default
  retry := default
  will := none
  credentials := none
  publish := none
  serverCert := none
  clientCert := none
  tls := none
  psk := none

/-- Whether some block asks for transport security. -/
def usesTls (c : Config) : Bool :=
  c.serverCert.isSome || c.clientCert.isSome || c.tls.isSome || c.psk.isSome

/-- What a made-up client identifier begins with, where its length is not limited. -/
def generatedHead : String := "mqtt-session/"

/-- The client identifier of a session. Where none is configured it is made from 32 hexadecimal digits that no
other session has; under a limit only as many of them as it allows. -/
def effectiveClientId (c : Config) (digits : String) : String :=
  if c.clientId.isEmpty then
    match c.clientIdPolicy.limit? with
    | some n => String.ofList (digits.toList.take n)
    | none => generatedHead ++ digits
  else c.clientId

theorem effectiveClientId_of_ne {c : Config} (h : c.clientId ≠ "") (digits : String) :
    c.effectiveClientId digits = c.clientId := by
  simp [effectiveClientId, h]

end Config

end BrokerSession
