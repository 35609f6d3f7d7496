/-!
# The log of a program

Records have a level and come from a part of the program. Which of them are written, and in which layout, is
chosen by words; a word that is none of them stands for the default.

## Main definitions

* `Log.Level`, `Log.Layout` - the levels and the layouts
* `Log.Level.ofWord`, `Log.Layout.ofWord` - the meaning of a word
* `Log.Record` - what is logged
-/

namespace BrokerSession.Log

/-- How severe a record is. -/
inductive Level where
  | error
  | warn
  | info
  | debug
  | trace
  deriving DecidableEq, Repr, Inhabited

namespace Level

/-- All levels, the most severe first. -/
def all : List Level := [error, warn, info, debug, trace]

/-- The name of a level. -/
def name : Level → String
  | error => "ERROR"
  | warn => "WARN"
  | info => "INFO"
  | debug => "DEBUG"
  | trace => "TRACE"

/-- The place of a level among all of them: the most severe has the smallest. -/
def rank : Level → Nat
  | error => 1
  | warn => 2
  | info => 3
  | debug => 4
  | trace => 5

/-- The level that a word stands for, in capitals or not; `info` for any other word. -/
def ofWord (word : String) : Level := (all.find? (·.name == word.toUpper)).getD info

/-- Whether records of a level are written when a level is asked for. -/
def shows (asked level : Level) : Bool := level.rank ≤ asked.rank

end Level

/-- How records are written. -/
inductive Layout where
  /-- One object on a line. -/
  | json
  /-- On several lines, with the place that a record comes from. -/
  | pretty
  /-- On one line. -/
  | compact
  deriving DecidableEq, Repr, Inhabited

namespace Layout

/-- The layout that a word stands for, in capitals or not; `json` for any other word. -/
def ofWord (word : String) : Layout :=
  if word.toLower == "pretty" then pretty
  else if word.toLower == "compact" then compact
  else json

end Layout

/-- What a record says beside its text. -/
inductive Value where
  /-- A text, which stands between quotes where records are texts themselves. -/
  | quoted (text : String)
  | plain (text : String)
  | number (n : Nat)
  deriving DecidableEq, Repr

/-- What is logged. -/
structure Record where
  level : Level
  /-- The part of the program that it comes from. -/
  place : String
  text : String
  /-- What it says beside its text, under names. -/
  details : List (String × Value)
  /-- The client id of the session that was being made at the time. -/
  session : Option String
  deriving DecidableEq, Repr

end BrokerSession.Log
