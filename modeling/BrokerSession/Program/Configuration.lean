import BrokerSession.CommandLine
import BrokerSession.Config.Encode
import BrokerSession.Program.Records
import BrokerSession.Program.Transcript
import BrokerSession.Toml.Printer

/-!
# The configuration of a run

A run takes its configuration from a file, from the URL of a broker, or from a file that is looked for when
neither is named. A configuration that is printed keeps its password and its shared key to itself.

## Main definitions

* `Program.load` - the configuration that the arguments ask for
* `Config.masked` - a configuration without its secrets
* `Program.configLines` - what is printed of a configuration
-/

namespace BrokerSession

/-- What stands in place of a secret. -/
def secretMask : String := "********"

/-- A configuration to look at: the password and the shared key are covered. -/
def Config.masked (c : Config) : Config :=
  { c with
    credentials := c.credentials.map fun k => { k with password := k.password.map fun _ => secretMask }
    psk := c.psk.map fun p => { p with key := secretMask } }

namespace Program

/-- The file that is looked for when no configuration is named. -/
def defaultConfig : String := "mqtt-session.toml"

/-- Why there is no configuration. -/
inductive LoadError where
  | config (e : ConfigError)
  | nowhere
  deriving DecidableEq, Repr

/-- The text of a reason. -/
def LoadError.message : LoadError → String
  | config e => e.message
  | nowhere => "no configuration; pass --config, --url or create " ++ defaultConfig

/-- A configuration from a file. -/
def loadFile (fs : Files) (env : Environment) (path : String) :
    List Log.Record × Except LoadError Config :=
  ([Records.loading path], (Config.load fs env path).mapError .config)

/-- The configuration for the broker of a URL. -/
def loadUrl (fs : Files) (env : Environment) (clientId url : String) : Except ConfigError Config := do
  (← (← Config.ofUrl clientId url).resolve env).validate fs

/-- The configuration of a run, with what is logged on the way. -/
def load (fs : Files) (env : Environment) (i : CommandLine.Invocation) :
    List Log.Record × Except LoadError Config :=
  match i.config, i.url with
  | some path, _ => loadFile fs env path
  | none, some url => ([], (loadUrl fs env i.clientId url).mapError .config)
  | none, none => if fs.holds defaultConfig then loadFile fs env defaultConfig else ([], .error .nowhere)

/-! ## What a run looks at -/

/-- The file that the configuration of a run is in, if it is not made from a URL. -/
def configFile? (i : CommandLine.Invocation) : Option String :=
  match i.config, i.url with
  | some path, _ => some path
  | none, some _ => none
  | none, none => some defaultConfig

/-- The configuration as it is written in the file of a run. -/
def written? (fs : Files) (i : CommandLine.Invocation) : Option Config := do
  let path ← configFile? i
  let text ← (fs.readText path).toOption
  (Config.ofToml text).toOption

/-- The paths that a configuration names. -/
def namedPaths (c : Config) : List String :=
  (c.serverCert.map fun s => s.caFile.toList ++ s.caPath.toList).getD [] ++
    (c.clientCert.map fun k => [k.certFile, k.keyFile]).getD []

/-- The variables that a configuration names. -/
def namedVariables (c : Config) : List String := (c.credentials.bind (·.passwordEnv)).toList

/-! ## What is printed -/

/-- The lines of a text. -/
def splitLines (text : String) : List String := (text.toList.splitOn '\n').map String.ofList

/-- What is printed of a configuration: the document that describes it, without secrets. -/
def configLines (c : Config) : List String :=
  let fields := match c.masked.encode .leftOut with
    | .table fields => fields
    | _ => []
  "Effective configuration:" :: splitLines (Toml.render fields) ++
    if c.clientId.isEmpty then ["client_id is generated for each session"] else []

/-- A run that checks its configuration, and perhaps prints it. -/
def check (c : Config) (shown : Bool) : List Utterance :=
  (if shown then (configLines c).map .printed else []) ++ [.logged Records.validated]

end Program

end BrokerSession
