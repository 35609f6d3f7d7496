import BrokerSession.Session

/-!
# Building a session, step by step

`Session.establish` says what comes of building a session. This is how one is built: every step may change the engine or
the directory, and what it has changed stays changed when a later step fails.

## Main definitions

* `Building` - a part of building a session
* `Session.build` - building a session, from the first look at the configuration to the worker
-/

namespace BrokerSession

/-- What a session is built from: an engine, and the directory that the session enters. -/
structure Site (σ : Type) where
  engine : σ
  directory : Directory Listener

/-- A part of building a session. -/
abbrev Building (σ : Type) := ExceptT SessionError (StateM (Site σ))

namespace Building

variable {σ : Type}

/-- There has to be something to run a worker on. -/
def requireHost (hosted : Bool) : Building σ Unit :=
  if hosted then pure () else throw .noRuntime

/-- The configuration is checked and given to the engine. -/
def giveOptions (e : Engine σ) (fs : Files) (env : Environment) (c : Config) (clientId : String) :
    Building σ Unit := do
  let site ← get
  let (outcome, engine) := c.stage e.set fs env clientId site.engine
  set { site with engine }
  match outcome with
  | .ok () => pure ()
  | .error error => throw (.config error)

/-- The session enters the directory. -/
def enrol (l : Listener) : Building σ SessionKey := do
  let site ← get
  let (key, directory) := site.directory.register l
  set { site with directory }
  return key

/-- The engine is told where its events go. -/
def attach (e : Engine σ) : Building σ Unit :=
  modify fun site => { site with engine := e.attach site.engine }

/-- A worker is taken on. If there is nothing to run it on, the session leaves the directory again. -/
def employ (hosted : Bool) (key : SessionKey) : Building σ (WorkQueue Job) := do
  if hosted then
    return .fresh
  else
    modify fun site => { site with directory := (site.directory.unregister key).2 }
    throw .noRuntime

end Building

/-- Builds a session for a configuration. -/
def Session.build {σ : Type} (e : Engine σ) (hosted : Bool) (fs : Files) (env : Environment) (c : Config)
    (clientId : String) (wanted : List Notice.Kind) : Building σ (Session σ) := do
  Building.requireHost hosted
  Building.giveOptions e fs env c clientId
  let key ← Building.enrol ⟨clientId, wanted, c.retry.isEnabled⟩
  Building.attach e
  let queue ← Building.employ hosted key
  let site ← get
  return {
    clientId
    key
    standing := default
    engine := site.engine
    queue
    exchange := none
    directory := site.directory
    journal := []
    resolved := []
    nextTicket := 0
    tornDown := false
    clock := 0 }

end BrokerSession
