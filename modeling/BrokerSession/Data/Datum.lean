import BrokerSession.Number.Binary64
import BrokerSession.Text.Quoted

/-!
# Data as a tree

Configurations are read from, and written to, trees of plain data. A tree knows nothing of the format it was
written in; formats differ in what they can hold and in how they say that something else was expected.

## Main definitions

* `Datum` - a tree of data
* `Datum.describe` - how a message mentions a piece of data
* `DataFormat` - the formats a tree may come from
-/

namespace BrokerSession

/-- A tree of data; a table keeps its fields in the order in which they were written. -/
inductive Datum where
  | null
  | bool (b : Bool)
  | int (n : Int)
  | real (x : Binary64)
  | text (s : String)
  /-- A date, a time, or both; no setting is one. -/
  | moment
  | list (items : List Datum)
  | table (fields : List (String × Datum))
  deriving Inhabited

/-- The formats a tree may come from. -/
inductive DataFormat where
  | toml
  | json
  deriving DecidableEq, Repr, Inhabited

/-- How a format writes its numbers. -/
def DataFormat.numberStyle : DataFormat → Binary64.Style
  | toml => .positional
  | json => .compact

/-- How a message mentions a piece of data. -/
def Datum.describe (format : DataFormat) : Datum → String
  | null => "null"
  | bool b => "boolean `" ++ toString b ++ "`"
  | int n => "integer `" ++ toString n ++ "`"
  | real x => "floating point `" ++ x.display format.numberStyle ++ "`"
  | text s => "string " ++ Quoted.encode s
  | moment => "map"
  | list _ => "sequence"
  | table _ => "map"

end BrokerSession
