import BrokerSession.Data.Datum
import BrokerSession.Text.Hex

/-!
# Writing TOML documents

A table is written as its plain values, one on a line, followed by the tables inside it under headers of their
own. A text is written in the plainest form that can hold it. A list of several items takes a line for each.

## Main definitions

* `Toml.Form` - the forms of a text
* `Toml.Form.of` - the plainest form that can hold a text
* `Toml.renderText`, `Toml.renderValue`, `Toml.render` - texts, values, and whole documents
-/

namespace BrokerSession.Toml

/-- The forms of a text. -/
inductive Form where
  /-- On one line, with escapes. -/
  | basic
  /-- On one line, as it is. -/
  | literal
  /-- On several lines, with escapes. -/
  | longBasic
  /-- On several lines, as it is. -/
  | longLiteral
  deriving DecidableEq, Repr

/-- The longest run of a character in a text. -/
def longestRun (c : Char) (cs : List Char) : Nat :=
  (cs.foldl (fun (best, run) d => if d = c then (max best (run + 1), run + 1) else (best, 0))
    (0, 0)).1

/-- Whether a character cannot stand in a text as it is, on however many lines. -/
def needsEscape (c : Char) : Bool :=
  (c.toNat ≤ 0x1f && c != '\t' && c != '\n') || c.toNat == 0x7f

/-- The longest run of quotes that a text of several lines can hold. -/
def maxQuotes : Nat := 2

/-- The plainest form that can hold a text. -/
def Form.of (cs : List Char) : Form :=
  let control := cs.any needsEscape
  let backslash := cs.contains '\\'
  let newline := cs.contains '\n'
  if !control && !backslash && !newline && !cs.contains '"' then basic
  else if !control && !newline && !cs.contains '\'' then literal
  else if !control && !backslash && longestRun '"' cs ≤ maxQuotes then longBasic
  else if !control && longestRun '\'' cs ≤ maxQuotes then longLiteral
  else if newline then longBasic
  else basic

/-- Four hexadecimal digits. -/
def fourDigits (n : Nat) : List Char :=
  [n / 4096 % 16, n / 256 % 16, n / 16 % 16, n % 16].map fun d => (Hex.digit d).toUpper

/-- The escaped form of a character other than a quote. -/
def escapeChar (long : Bool) (c : Char) : List Char :=
  if c = '\x08' then ['\\', 'b']
  else if c = '\t' then ['\\', 't']
  else if c = '\n' then (if long then ['\n'] else ['\\', 'n'])
  else if c = '\x0c' then ['\\', 'f']
  else if c = '\r' then ['\\', 'r']
  else if c = '\\' then ['\\', '\\']
  else if needsEscape c then '\\' :: 'u' :: fourDigits c.toNat
  else [c]

/-- The escaped form of a text, behind a run of quotes that stand as they are. A quote is escaped where the
run would become too long. -/
def escapeAll (long : Bool) (run : Nat) (acc : List Char) : List Char → List Char
  | [] => acc.reverse
  | c :: rest =>
    if c = '"' then
      if run < (if long then maxQuotes else 0) then escapeAll long (run + 1) ('"' :: acc) rest
      else escapeAll long 0 ('"' :: '\\' :: acc) rest
    else escapeAll long 0 ((escapeChar long c).reverse ++ acc) rest

/-- The quotes around a form. -/
def Form.quotes : Form → String
  | basic => "\""
  | literal => "'"
  | longBasic => "\"\"\""
  | longLiteral => "'''"

/-- A text in a form. A text of several lines begins on a line of its own. -/
def renderAs (form : Form) (cs : List Char) : String :=
  let body := match form with
    | .basic => escapeAll false 0 [] cs
    | .longBasic => escapeAll true 0 [] cs
    | _ => cs
  let start := match form with
    | .longBasic | .longLiteral => if cs.contains '\n' then "\n" else ""
    | _ => ""
  form.quotes ++ start ++ String.ofList body ++ form.quotes

/-- A text in the plainest form that can hold it. -/
def renderText (s : String) : String := renderAs (.of s.toList) s.toList

/-- A key: as it is, or as a text. -/
def renderKey (key : String) : String :=
  if !key.isEmpty && key.toList.all fun c => c.isAlphanum || c == '_' || c == '-' then key
  else renderText key

/-- A list from its written items. -/
def renderList : List String → String
  | [] => "[]"
  | [item] => "[" ++ item ++ "]"
  | items => "[\n" ++ String.join (items.map fun item => "    " ++ item ++ ",\n") ++ "]"

mutual

/-- A value behind its key; a moment has no text of its own. -/
def renderValue : Datum → String
  | .null => ""
  | .bool b => toString b
  | .int n => toString n
  | .real x => x.display .positional
  | .text s => renderText s
  | .moment => ""
  | .list items => renderList (renderItems items)
  | .table fields => "\x7b " ++ ", ".intercalate (renderFields fields) ++ " \x7d"

/-- The items of a list. -/
def renderItems : List Datum → List String
  | [] => []
  | d :: rest => renderValue d :: renderItems rest

/-- The fields of a table on one line. -/
def renderFields : List (String × Datum) → List String
  | [] => []
  | (key, d) :: rest => (renderKey key ++ " = " ++ renderValue d) :: renderFields rest

end

/-- The plain values of a table, one on a line. -/
def renderPlain : List (String × Datum) → List String
  | [] => []
  | (_, .table _) :: rest => renderPlain rest
  | (key, d) :: rest => (renderKey key ++ " = " ++ renderValue d) :: renderPlain rest

/-- The header of a table: written where there is a value to stand under it, or nothing at all. -/
def renderHeader (path : List String) (fields : List (String × Datum)) (plain : List String) :
    List String :=
  if plain.isEmpty && !fields.isEmpty then []
  else ["", "[" ++ ".".intercalate (path.map renderKey) ++ "]"]

mutual

/-- The tables inside a table, under their headers, each after a blank line. -/
def renderTables (path : List String) : List (String × Datum) → List String
  | [] => []
  | (key, d) :: rest => renderTable (path ++ [key]) d ++ renderTables path rest

/-- A table under its header, and the tables inside it. -/
def renderTable (path : List String) : Datum → List String
  | .table fields =>
    renderHeader path fields (renderPlain fields) ++ renderPlain fields ++ renderTables path fields
  | _ => []

end

/-- The lines of a document. -/
def renderLines (fields : List (String × Datum)) : List String :=
  let plain := renderPlain fields
  let tables := renderTables [] fields
  -- Nothing precedes the first header of a document without plain values.
  if plain.isEmpty then tables.drop 1 else plain ++ tables

/-- A whole document. -/
def render (fields : List (String × Datum)) : String :=
  String.join ((renderLines fields).map (· ++ "\n"))

end BrokerSession.Toml
