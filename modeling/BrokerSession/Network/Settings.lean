import BrokerSession.Files
import BrokerSession.Network.PacketIds
import BrokerSession.Setting

/-!
# What a network engine has been told

Options arrive one by one before the first connect. The engine keeps what it needs of them and refuses what it
cannot do: the older protocol, keys that both ends hold, encrypted keys, and any tampering with verification.
Certificates are read when they are named, not when they are used.

## Main definitions

* `Security`, `Security.Bundle` - how connections are secured
* `Security.Bundle.load` - the contents of the named certificates
* `NetworkSettings` - everything that was accepted
* `NetworkSettings.set` - taking an option
-/

namespace BrokerSession

/-- The limit for packets in both directions, in bytes. -/
def maxPacketSize : Nat := 262144

namespace Security

/-- Certificates with their contents. -/
structure Bundle where
  /-- The certificates that vouch for the broker. -/
  ca : List UInt8
  /-- The certificate of the client, and its key. -/
  clientAuth : Option (List UInt8 × List UInt8)
  deriving DecidableEq, Repr

namespace Bundle

/-- The contents of a certificate file. -/
def contents (fs : Files) (path : String) : Except Status (List UInt8) :=
  match fs.read path with
  | .ok bytes => .ok bytes.data.toList
  | .error _ => .error .inval

/-- What stands behind the last dot of a file's name, unless the name only begins with a dot. -/
def extension? (name : String) : Option String :=
  let reversed := name.toList.reverse
  match reversed.dropWhile (· != '.') with
  | [] => none
  | [_] => none
  | _ => some (String.ofList (reversed.takeWhile (· != '.')).reverse)

/-- Whether a file in a directory of certificates is one of them, by its name. -/
def isCertificate (name : String) : Bool :=
  extension? name == some "pem" || extension? name == some "crt"

/-- The certificates among the names and nodes inside a directory, in the order of their names. -/
def certificates (children : List (String × FileNode)) : List (String × FileNode) :=
  (children.filter fun (name, node) => !node.isDirectory && isCertificate name).mergeSort fun a b => a.1 ≤ b.1

/-- A certificate with its contents. -/
def opened (certificate : String × FileNode) : Except Status (String × List UInt8) :=
  match certificate.2.read with
  | .ok bytes => .ok (certificate.1, bytes.data.toList)
  | .error _ => .error .inval

/-- The certificates of a directory with their contents, in the order of their names. -/
def directoryEntries (fs : Files) (path : String) : Except Status (List (String × List UInt8)) :=
  match fs.children path with
  | .error _ => .error .inval
  | .ok children => (certificates children).mapM opened

/-- The byte that ends a line. -/
def lineFeed : UInt8 := 10

/-- Contents with a line feed at their end. -/
def ended (bytes : List UInt8) : List UInt8 :=
  if bytes.getLast? = some lineFeed then bytes else bytes ++ [lineFeed]

/-- The contents of a directory of certificates, each ended. -/
def directoryContents (fs : Files) (path : String) : Except Status (List UInt8) := do
  return (← directoryEntries fs path).flatMap fun (_, bytes) => ended bytes

/-- The contents of something that may not be named. -/
def optional (read : String → Except Status (List UInt8)) :
    Option String → Except Status (List UInt8)
  | some path => read path
  | none => .ok []

/-- The certificate of the client, and its key; an encrypted key is of no use. -/
def clientContents (fs : Files) (k : Config.ClientCert) :
    Except Status (List UInt8 × List UInt8) := do
  if k.keyPassphrase.isSome then throw .notSupported
  return (← contents fs k.certFile, ← contents fs k.keyFile)

/-- The contents of the named certificates; there has to be something that vouches for the broker. -/
def load (fs : Files) (server : Config.ServerCert) (client : Option Config.ClientCert) :
    Except Status Bundle := do
  let file ← optional (contents fs) server.caFile
  let directory ← optional (directoryContents fs) server.caPath
  let ca := file ++ directory
  if ca.isEmpty then throw .inval
  match client with
  | some k => return ⟨ca, some (← clientContents fs k)⟩
  | none => return ⟨ca, none⟩

end Bundle

end Security

/-- How connections are secured. -/
inductive Security where
  | plain
  /-- With the certificates of the system. -/
  | systemRoots
  | bundle (b : Security.Bundle)
  deriving DecidableEq, Repr

/-- Connections are not secured, unless that is asked for. -/
instance : Inhabited Security := ⟨.plain⟩

/-- How a client presents itself. -/
structure Identity where
  clientId : String
  cleanSession : Bool
  deriving DecidableEq, Repr

/-- Everything that an engine was told and accepted. -/
structure NetworkSettings where
  identity : Option Identity
  policy : RetryPolicy
  will : Option Config.Will
  /-- A user name with a password. -/
  login : Option (String × String)
  window : Option UInt16
  security : Security
  deriving DecidableEq

namespace NetworkSettings

/-- Before anything was told: connections that are lost stay lost. -/
def start : NetworkSettings := ⟨none, .disabled, none, none, none, .plain⟩

/-- Whether options for the transport security ask for something special. -/
def isSpecial (t : Config.TlsOptions) : Bool :=
  t.insecure || t.peerCheck == .verifyNone || t.version.isSome || t.ciphers.isSome

/-- Takes an option, or refuses it and stays as it is. -/
def set (fs : Files) (s : NetworkSettings) : Setting → Status × NetworkSettings
  | .identity clientId cleanSession version =>
    match version with
    | .v31 => (.notSupported, s)
    | .v311 => (.success, { s with identity := some ⟨clientId, cleanSession⟩ })
  | .reconnect policy => (.success, { s with policy })
  | .will w =>
    if w.topic.isEmpty then (.inval, s)
    else if maxPacketSize < w.topic.utf8ByteSize + w.payload.size then (.payloadSize, s)
    else (.success, { s with will := some w })
  | .credentials k => (.success, { s with login := some (k.username, k.password.getD "") })
  | .publish p => (.success, { s with window := some (PacketIds.ofLimit p.maxInflight) })
  | .tlsBundle server client =>
    match Security.Bundle.load fs server client with
    | .ok b => (.success, { s with security := .bundle b })
    | .error status => (status, s)
  | .tls options =>
    if isSpecial options then (.notSupported, s)
    else if s.security = .plain then (.success, { s with security := .systemRoots })
    else (.success, s)
  | .psk _ => (.notSupported, s)

end NetworkSettings

end BrokerSession
