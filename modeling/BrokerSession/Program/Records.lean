import BrokerSession.Directory
import BrokerSession.Log
import BrokerSession.Network.Settings
import BrokerSession.Session.Journal

/-!
# What the program logs

Every part of the program has a place of its own in the log. While a session is being made its records carry its
client id, and the beginning and the end of its making can be logged as well.

## Main definitions

* `Records.place` - the places of the parts
* `Records.making` - what is logged while a session is being made
* `Records.ofEntry` - what is logged about a line of a session's journal
-/

namespace BrokerSession.Records

/-- The parts of the program that log something. -/
inductive Part where
  | program
  | session
  | staging
  | registry
  | phase
  | engine
  | certificates

/-- The place of a part. -/
def place : Part → String
  | .program => "mqtt_session"
  | .session => "mqtt_session::session::client"
  | .staging => "mqtt_session::session::staging"
  | .registry => "mqtt_session::session::registry"
  | .phase => "mqtt_session::session::state"
  | .engine => "mqtt_session::engine::rumqtt::engine"
  | .certificates => "mqtt_session::engine::rumqtt::options"

/-- A record about nothing but its text. -/
def plain (level : Log.Level) (part : Part) (text : String) : Log.Record :=
  ⟨level, place part, text, [], none⟩

/-! ## Configurations -/

/-- A configuration is about to be read. -/
def loading (path : String) : Log.Record := plain .info .program ("Loading configuration from: " ++ path)

/-- There is no configuration. -/
def notLoaded (reason : String) : Log.Record :=
  plain .error .program ("Failed to load configuration: " ++ reason)

/-- The configuration is fine. -/
def validated : Log.Record := plain .info .program "Configuration validation complete"

/-! ## The making of a session -/

/-- The certificate that could not be read, when an engine refused to take certificates. -/
def certificateFault? (fs : Files) (server : Config.ServerCert) (client : Option Config.ClientCert) :
    Option (String × String) :=
  let file (path : String) : Option (String × String) :=
    match fs.read path with
    | .error e => some (path, "Failed to read certificate: " ++ e.message)
    | .ok _ => none
  let directory (path : String) : Option (String × String) :=
    match fs.children path with
    | .error e => some (path, "Failed to read CA directory: " ++ e.message)
    | .ok children =>
      (Security.Bundle.certificates children).findSome? fun (name, node) =>
        match node.read with
        | .error e => some (Files.inside path name, "Failed to read certificate: " ++ e.message)
        | .ok _ => none
  let trusted := Security.Bundle.load fs server none
  server.caFile.bind file <|> server.caPath.bind directory <|>
    (if trusted.isOk then
      client.bind fun k => if k.keyPassphrase.isSome then none else file k.certFile <|> file k.keyFile
    else none)

/-- What is logged when an option was given to the engine. -/
def optionTaken : Setting → List Log.Record
  | .publish p =>
    (if 0 < p.retrySecs then
      [⟨.debug, place .engine, "Message retry interval is managed by the event loop; ignoring",
        [("retry_secs", .number p.retrySecs.toNat)], none⟩]
    else []) ++ [staged .publish]
  | x => [staged x.option]
where
  /-- The engine took an option. -/
  staged (option : Setup) : Log.Record :=
    ⟨.debug, place .staging, "Option staged", [("option", .quoted option.word)], none⟩

/-- What is logged when an option was refused. -/
def optionRefused (fs : Files) : Setting → List Log.Record
  | .tlsBundle server client =>
    (certificateFault? fs server client).toList.map fun (path, text) =>
      ⟨.debug, place .certificates, text, [("path", .plain path)], none⟩
  | _ => []

/-- The beginning or the end of a session's making. -/
def turn (text : String) : Log.Record := plain .info .session text

/-- What is logged when a session exists. -/
def created (c : Config) (key : SessionKey) : List Log.Record :=
  [plain .info .registry "Session registry initialized",
    ⟨.debug, place .registry, "Session registered", [("key", .plain key.message)], none⟩,
    ⟨.info, place .session, "Session created",
      [("key", .plain key.message), ("host", .plain c.host), ("port", .number c.port.toNat)], none⟩]

/-- What is logged while options are given to an engine that takes all of them, or refuses one. -/
def staging (fs : Files) (settings : List Setting) : Option Setup → List Log.Record
  | none => settings.flatMap optionTaken
  | some refused =>
    (settings.takeWhile (·.option != refused)).flatMap optionTaken ++
      (settings.find? (·.option == refused)).toList.flatMap (optionRefused fs)

/-- What is logged while a session is being made, or turns out to be impossible. -/
def making (spans : Bool) (fs : Files) (c : Config) (clientId : String)
    (result : Except SessionError SessionKey) : List Log.Record :=
  let settings := c.settings clientId
  let told := match result with
    | .ok key => staging fs settings none ++ created c key
    | .error (.config (.rejected option _)) => staging fs settings (some option)
    | .error _ => []
  let framed := if spans then turn "new" :: told ++ [turn "close"] else told
  framed.map fun r => { r with session := some clientId }

/-! ## The life of a session -/

/-- The session moves from one phase to another. -/
def phaseChange (before after : Phase) : List Log.Record :=
  if before = after then []
  else
    [⟨.debug, place .phase, "Connection state changed",
      [("from", .plain before.word), ("to", .plain after.word)], none⟩]

/-- A connection was asked for. -/
def connecting (c : Config) (clientId : String) : List Log.Record :=
  ⟨.info, place .session, "Connecting",
      [("client_id", .plain clientId), ("host", .plain c.host), ("port", .number c.port.toNat)], none⟩ ::
    phaseChange .disconnected .connecting

/-- The engine is ready for a connection. -/
def prepared (c : Config) : Log.Record :=
  ⟨.info, place .engine, "Connection prepared", [("host", .plain c.host), ("port", .number c.port.toNat)], none⟩

/-- The end of the connection was asked for. -/
def disconnecting (clientId : String) (phase : Phase) : List Log.Record :=
  ⟨.info, place .session, "Disconnecting", [("client_id", .plain clientId)], none⟩ ::
    phaseChange phase .disconnecting

/-- The session has ended. -/
def ended (clientId : String) : Log.Record :=
  ⟨.info, place .session, "Session shut down", [("client_id", .plain clientId)], none⟩

/-- Granted guarantees in a text. -/
def showGranted (granted : List Int) : String :=
  "[" ++ ", ".intercalate (granted.map fun g => toString g) ++ "]"

/-- What is logged about a line of a session's journal. A subscriber also hears of grants and of losses. -/
def ofEntry (subscriber : Bool) : Entry → List Log.Record
  | .warning w status =>
    [⟨.warn, place .session, w.message, (status.map fun s => ("status", .plain s.message)).toList, none⟩]
  | .retrying attempt delay =>
    [⟨.info, place .engine, "Reconnecting", [("attempt", .number attempt), ("delay_secs", .number delay)],
      none⟩]
  | .notice (.subscribed id granted) =>
    if subscriber then
      [⟨.info, place .program, "Subscribed",
        [("mid", .number id.toNat), ("granted", .plain (showGranted granted))], none⟩]
    else []
  | .notice (.disconnected reason) =>
    if subscriber then
      [⟨.warn, place .program, "Connection lost", [("reason", .plain reason.message)], none⟩]
    else []
  | .notice _ => []

/-- The message was published. -/
def published (topic : String) (id : MessageId) (acknowledged : Bool) : List Log.Record :=
  (if acknowledged then []
    else [⟨.warn, place .program, "Publish was not acknowledged", [("mid", .number id.toNat)], none⟩]) ++
  [⟨.info, place .program, "Published", [("topic", .plain topic), ("mid", .number id.toNat)], none⟩]

/-- The run failed. -/
def failed (reason : String) : Log.Record := plain .error .program ("Command failed: " ++ reason)

end BrokerSession.Records
