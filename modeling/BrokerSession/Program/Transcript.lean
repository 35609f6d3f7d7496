import BrokerSession.Log.Line

/-!
# What a run of the program writes

Printed lines and records of the log appear in one sequence, and a run ends with a code.

## Main definitions

* `Transcript` - what a run writes, and how it ends
* `Transcript.output`, `Transcript.log` - the printed lines alone, and the records alone
-/

namespace BrokerSession

/-- Something that a run writes. -/
inductive Utterance where
  | printed (line : String)
  | logged (r : Log.Record)
  deriving DecidableEq, Repr

/-- What a run writes, in order, and how it ends. -/
structure Transcript where
  exit : Nat
  utterances : List Utterance
  /-- How the records are laid out. -/
  layout : Log.Layout
  deriving DecidableEq, Repr

namespace Transcript

/-- The printed lines. -/
def output (t : Transcript) : List String :=
  t.utterances.filterMap fun
    | .printed line => some line
    | .logged _ => none

/-- The records of the log. -/
def log (t : Transcript) : List Log.Record :=
  t.utterances.filterMap fun
    | .printed _ => none
    | .logged r => some r

/-- Everything that is written, line by line. -/
def lines (t : Transcript) : List String :=
  t.utterances.map fun
    | .printed line => line
    | .logged r => r.line t.layout

end Transcript

end BrokerSession
