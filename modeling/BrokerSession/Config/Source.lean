import BrokerSession.Config.Check
import BrokerSession.Config.Decode
import BrokerSession.Toml.Document
import BrokerSession.Url

/-!
# Where a configuration comes from

A configuration is made from the URL of a broker, or loaded from a file. A loaded one has its password fetched
from the environment, where it says so, and is checked.

## Main definitions

* `Environment` - the variables of a process
* `Config.ofUrl` - a configuration for the broker of a URL
* `Config.resolve` - a configuration with its password fetched
* `Config.ofToml` - a configuration written as a TOML document
* `Config.load` - a checked configuration from a file
-/

namespace BrokerSession

/-- The variables of a process. -/
abbrev Environment := List (String × String)

namespace Config

/-- The credentials with their password, which is fetched from the environment when none is written down. -/
def Credentials.resolve (env : Environment) (k : Credentials) : Except ConfigError Credentials :=
  match k.password, k.passwordEnv with
  | none, some name =>
    match env.lookup name with
    | some value => .ok { k with password := some value }
    | none => .error (.envVarNotFound name)
  | _, _ => .ok k

/-- The configuration with its password fetched. -/
def resolve (env : Environment) (c : Config) : Except ConfigError Config := do
  match c.credentials with
  | some k => return { c with credentials := some (← k.resolve env) }
  | none => return c

/-- What a scheme stands for: whether transport security is asked for, and the port that goes with it. -/
def schemeDefaults? (scheme : String) : Option (Bool × UInt16) :=
  if scheme == "mqtt" || scheme == "tcp" then some (false, 1883)
  else if scheme == "mqtts" || scheme == "ssl" then some (true, 8883)
  else none

/-- A configuration for the broker of a URL. -/
def ofUrl (clientId text : String) : Except ConfigError Config :=
  match Url.parse? text with
  | none => .error (.invalidUrl text)
  | some url =>
    match schemeDefaults? url.scheme with
    | none => .error (.invalidUrl text)
    | some (secure, port) =>
      .ok { ofEndpoint clientId url.host (url.port.getD port) defaultKeepAlive with
        tls := if secure then some default else none
        credentials :=
          if url.username.isEmpty then none else some ⟨url.username, url.password, none⟩ }

/-- A configuration written as a TOML document. -/
def ofToml (text : String) : Except ConfigError Config :=
  match Toml.parse text with
  | none => .error .malformed
  | some d =>
    match decode .toml d with
    | .ok c => .ok c
    | .error fault => .error (.misshapen fault)

/-- A checked configuration from a file. -/
def load (fs : Files) (env : Environment) (path : String) : Except ConfigError Config :=
  match fs.readText path with
  | .error fault => .error (.unreadable fault)
  | .ok text => do (← (← ofToml text).resolve env).validate fs

end Config

end BrokerSession
