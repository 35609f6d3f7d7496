import BrokerSession.Log.Filter
import BrokerSession.Program.Errands
import BrokerSession.Program.Configuration

/-!
# The program

The program publishes a message, prints the messages that come in, or checks a configuration. What it writes and
how it ends follows from its arguments, its environment, the files around it and what the network does.

## Main definitions

* `Program.LogSetup` - which records are written, and how
* `Program.run` - a run
-/

namespace BrokerSession.Program

/-- What the program answers when it is asked for its version. -/
def versionLine : String := "mqtt-session 0.1.0"

/-! ## The log -/

/-- Which records are written, and how. -/
structure LogSetup where
  filter : Log.Filter
  layout : Log.Layout
  /-- Whether the beginning and the end of a session's making are logged. -/
  spans : Bool
  deriving Repr

/-- The variables of the environment that every run looks at. -/
def knownVariables : List String := [CommandLine.urlVariable, "RUST_LOG", "LOG_LEVEL", "LOG_FORMAT", "LOG_SPANS"]

/-- The setup for a verbosity; without one the environment decides. A filter in the environment always wins. -/
def LogSetup.of (env : Environment) (verbosity : Nat) : LogSetup :=
  let value (name : String) : String := (env.lookup name).getD ""
  let (level, layout, spans) := match verbosity with
    | 0 =>
      (Log.Level.ofWord (value "LOG_LEVEL"), Log.Layout.ofWord (value "LOG_FORMAT"),
        (value "LOG_SPANS").toLower == "true")
    | 1 => (Log.Level.debug, Log.Layout.compact, false)
    | _ => (Log.Level.trace, Log.Layout.compact, true)
  let filter := match env.lookup "RUST_LOG" with
    | some text => Log.Filter.ofText text
    | none => .ofLevel level
  ⟨filter, layout, spans⟩

/-- Whether something is written: all that is printed, and the records that pass the filter. -/
def LogSetup.admits (s : LogSetup) : Utterance → Bool
  | .printed _ => true
  | .logged r => s.filter.passes r

/-! ## A run -/

/-- What a run does once it has a configuration: how it ends, and what it writes. -/
def serve (w : Surroundings) (spans : Bool) (c : Config) : CommandLine.Errand → Nat × List Utterance
  | .check shown => (0, check c shown)
  | errand => w.runErrand spans c errand

/-- What a run does once its arguments make sense. -/
def execute (w : Surroundings) (i : CommandLine.Invocation) : Transcript :=
  let setup := LogSetup.of w.env i.verbosity
  let (before, loaded) := load w.files w.env i
  let (exit, utterances) : Nat × List Utterance := match loaded with
    | .error e => (1, [.logged (Records.notLoaded e.message)])
    | .ok c => serve w setup.spans c i.errand
  ⟨exit, (before.map Utterance.logged ++ utterances).filter setup.admits, setup.layout⟩

/-- A run with arguments. Arguments that make no sense end it with the code 2. -/
def run (w : Surroundings) (args : List String) : Transcript :=
  match CommandLine.parse w.env args with
  | .error .usage => ⟨2, [], .json⟩
  | .error .help => ⟨0, [], .json⟩
  | .error .version => ⟨0, [.printed versionLine], .json⟩
  | .ok i => execute w i

end BrokerSession.Program
