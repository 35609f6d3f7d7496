import BrokerSession.Toml.Scalar

/-!
# TOML documents

A document is a sequence of statements: a value under a key, or a header that says which table the following
values belong to. A key may have several parts, each of which leads one table further. Statements are read
first, and then put together into one tree; a statement that would write to a table that is already complete
makes the whole document unreadable.

## Main definitions

* `Toml.Statement` - what a line says
* `Toml.value`, `Toml.statements` - reading
* `Toml.Entry` - a tree under construction
* `Toml.insert` - a value under a key of several parts
* `Toml.Layout` - the tree, and the table that is open
* `Toml.parse` - the tree of a document
-/

namespace BrokerSession.Toml

/-! ## The tree under construction -/

/-- What stands under a key while the document is being read. -/
inductive Entry where
  | value (d : Datum)
  /-- A table. One that only exists because a key or a header leads through it is *implicit*; one that exists
  because of a key is *dotted* as well. -/
  | table (isImplicit dotted : Bool) (entries : List (String × Entry))
  /-- Tables that share one header, each of which may be written to while it is the last. -/
  | tables (items : List (List (String × Entry)))

/-- The keys of a table with what stands under them, in the order in which they appeared. -/
abbrev Entries := List (String × Entry)

mutual

/-- The finished tree of an entry. -/
def Entry.datum : Entry → Datum
  | .value d => d
  | .table _ _ entries => .table (datumFields entries)
  | .tables items => .list (datumTables items)

/-- The finished fields of a table. -/
def datumFields : List (String × Entry) → List (String × Datum)
  | [] => []
  | (key, entry) :: rest => (key, entry.datum) :: datumFields rest

/-- The finished tables under one header. -/
def datumTables : List (List (String × Entry)) → List Datum
  | [] => []
  | entries :: rest => .table (datumFields entries) :: datumTables rest

end

/-- The entries with another one under a key that is there already. -/
def replace (entries : Entries) (key : String) (entry : Entry) : Entries :=
  entries.map fun (k, e) => if k == key then (k, entry) else (k, e)

/-- Writes a value under a key of several parts. `inner` says that the key has led here, and `dotted` that it
was a key that made this table: only such tables may be written to from outside. -/
def insertAt (inner dotted : Bool) (entries : Entries) : List String → Datum → Option Entries
  | [], _ => none
  | [key], d =>
    if (inner && !dotted) || (entries.lookup key).isSome then none
    else some (entries ++ [(key, .value d)])
  | key :: path, d =>
    match entries.lookup key with
    | none =>
      (insertAt true true [] path d).map fun sub => entries ++ [(key, .table true true sub)]
    | some (.table isImplicit dotted sub) =>
      if isImplicit then
        (insertAt true dotted sub path d).map fun sub =>
          replace entries key (.table isImplicit dotted sub)
      else none
    | some (.tables items) => do
      let sub ← insertAt true false (← items.getLast?) path d
      return replace entries key (.tables (items.dropLast ++ [sub]))
    | some (.value _) => none

/-- Writes a value into the open table, under a key of several parts. -/
def insert (entries : Entries) (path : List String) (d : Datum) : Option Entries :=
  insertAt false false entries path d

/-- Follows the parts of a header, making tables where there are none, and changes the table that holds the
last part. -/
def changeAt {α : Type} (entries : Entries) (change : Entries → String → Option (α × Entries)) :
    List String → Option (α × Entries)
  | [] => none
  | [key] => change entries key
  | key :: path =>
    match entries.lookup key with
    | none =>
      (changeAt [] change path).map fun (a, sub) => (a, entries ++ [(key, .table true false sub)])
    | some (.table isImplicit dotted sub) =>
      (changeAt sub change path).map fun (a, sub) =>
        (a, replace entries key (.table isImplicit dotted sub))
    | some (.tables items) => do
      let (a, sub) ← changeAt (← items.getLast?) change path
      return (a, replace entries key (.tables (items.dropLast ++ [sub])))
    | some (.value _) => none

/-- Takes out the table of a header, so that it can be written to. Only a table that headers have led through,
and that has not been written to, may be there already. -/
def openTable (entries : Entries) (key : String) : Option (Entries × Entries) :=
  match entries.lookup key with
  | none => some ([], entries)
  | some (.table true false sub) => some (sub, entries.filter (·.1 != key))
  | some _ => none

/-- Makes room for another table under a header that may be repeated. -/
def openTables (entries : Entries) (key : String) : Option (Entries × Entries) :=
  match entries.lookup key with
  | none => some ([], entries ++ [(key, .tables [])])
  | some (.tables _) => some ([], entries)
  | some _ => none

/-- Puts the table of a header in its place. -/
def closeTable (table entries : Entries) (key : String) : Option (Unit × Entries) :=
  some ((), entries ++ [(key, .table false false table)])

/-- Adds a table under a header that may be repeated. -/
def closeTables (table entries : Entries) (key : String) : Option (Unit × Entries) :=
  match entries.lookup key with
  | some (.tables items) => some ((), replace entries key (.tables (items ++ [table])))
  | _ => none

/-! ## Values -/

/-- Whether a character may stand in a key without quotes. -/
def isBare (c : Char) : Bool := c.isAlphanum || c == '_' || c == '-'

/-- One part of a key. -/
def keyPart : Reader String
  | '"' :: rest => basicString rest
  | '\'' :: rest => literalString rest
  | cs =>
    match cs.takeWhile isBare with
    | [] => none
    | word => some (String.ofList word, cs.dropWhile isBare)

/-- The number of tables that may stand inside one another. -/
def maxDepth : Nat := 80

/-- The parts of a key, parted by points. Every step uses up some of the text. -/
def keyParts : Nat → Reader (List String)
  | 0, _ => none
  | n + 1, cs => do
    let (part, rest) ← keyPart (skipGap cs)
    match skipGap rest with
    | '.' :: rest => do
      let (parts, rest) ← keyParts n rest
      return (part :: parts, rest)
    | rest => return ([part], rest)

/-- A key: fewer parts than the number of tables that may stand inside one another. -/
def key : Reader (List String) := keyParts (maxDepth - 1)

/-- The text behind everything that may stand between the items of a list: gaps, ends of lines and comments.
Every comment uses up some of the text. -/
def skipBetween : Nat → List Char → List Char
  | 0, cs => cs
  | n + 1, cs =>
    match skipLines cs with
    | '#' :: rest => skipBetween n (rest.dropWhile isPlain)
    | rest => rest

/-- The items of a list, up to its closing bracket. Every step uses up some of the text. -/
def listItems (item : Reader Datum) : Nat → List Datum → Reader Datum
  | 0, _, _ => none
  | n + 1, acc, cs =>
    match skipBetween (n + 1) cs with
    | ']' :: rest => some (.list acc.reverse, rest)
    | cs => do
      let (d, rest) ← item cs
      match skipBetween n rest with
      | ',' :: rest => listItems item n (d :: acc) rest
      | ']' :: rest => some (.list (d :: acc).reverse, rest)
      | _ => none

/-- A key with its value. -/
def assignment (item : Reader Datum) : Reader (List String × Datum) := fun cs => do
  let (path, rest) ← key cs
  let (d, rest) ← item (skipGap (← expect '=' rest))
  return ((path, d), rest)

/-- The fields of a table on one line, up to its closing brace. Every step uses up some of the text. -/
def tableFields (item : Reader Datum) : Nat → Entries → Reader Datum
  | 0, _, _ => none
  | n + 1, entries, cs => do
    let ((path, d), rest) ← assignment item cs
    let entries ← insert entries path d
    match skipGap rest with
    | ',' :: rest => tableFields item n entries rest
    | '}' :: rest => some (.table (datumFields entries), rest)
    | _ => none

/-- A value, which may hold others up to a depth. -/
def value : Nat → Reader Datum
  | 0, cs => scalar cs
  | depth + 1, cs =>
    match cs with
    | '[' :: rest => listItems (value depth) (rest.length + 1) [] rest
    | '{' :: rest =>
      match skipGap rest with
      | '}' :: rest => some (.table [], rest)
      | rest => tableFields (value depth) (rest.length + 1) [] rest
    | cs => scalar cs

/-! ## Statements -/

/-- What a line says. -/
inductive Statement where
  /-- A value under a key. -/
  | assign (path : List String) (d : Datum)
  /-- The values that follow belong to this table. -/
  | table (path : List String)
  /-- The values that follow belong to one more table under this header. -/
  | tables (path : List String)

/-- The text behind an end of a line, before which a comment may stand. -/
def lineEnd? (cs : List Char) : Option (List Char) :=
  let rest := match skipGap cs with
    | '#' :: rest => rest.dropWhile isPlain
    | rest => rest
  if rest.isEmpty then some [] else newline? rest

/-- What a line says that is neither blank nor a comment, up to where the rest of the line has to be blank. -/
def statement : Reader Statement
  | '[' :: '[' :: rest => do
    let (path, rest) ← key rest
    return (.tables path, ← expect ']' (← expect ']' rest))
  | '[' :: rest => do
    let (path, rest) ← key rest
    return (.table path, ← expect ']' rest)
  | cs => do
    let ((path, d), rest) ← assignment (value (maxDepth - 1)) cs
    return (.assign path d, rest)

/-- The statements of a document. Every step uses up some of the text. -/
def statementsFrom : Nat → List Statement → List Char → Option (List Statement)
  | 0, _, _ => none
  | n + 1, acc, cs =>
    match skipGap cs with
    | [] => some acc.reverse
    | '#' :: rest => do statementsFrom n acc (← lineEnd? ('#' :: rest))
    | '\n' :: rest => statementsFrom n acc rest
    | '\r' :: '\n' :: rest => statementsFrom n acc rest
    | cs => do
      let (s, rest) ← statement cs
      statementsFrom n (s :: acc) (← lineEnd? rest)

/-- The statements of a document, which may begin with a mark of the byte order. -/
def statements (cs : List Char) : Option (List Statement) :=
  statementsFrom (cs.length + 1) [] (if cs.head? = some '\uFEFF' then cs.drop 1 else cs)

/-! ## Putting statements together -/

/-- Which table is open. -/
inductive Header where
  | root
  | table (path : List String)
  | tables (path : List String)

/-- The tree as far as it is complete, and the table that is open. -/
structure Layout where
  root : Entries
  header : Header
  entries : Entries

namespace Layout

/-- Before the first header, the root itself is open. -/
def start : Layout := ⟨[], .root, []⟩

/-- The tree with the open table in its place. -/
def close (l : Layout) : Option Entries :=
  match l.header with
  | .root => some l.entries
  | .table path => (changeAt l.root (closeTable l.entries) path).map (·.2)
  | .tables path => (changeAt l.root (closeTables l.entries) path).map (·.2)

/-- The effect of a statement. -/
def step (l : Layout) : Statement → Option Layout
  | .assign path d => do return { l with entries := ← insert l.entries path d }
  | .table path => do
    let (entries, root) ← changeAt (← l.close) openTable path
    return ⟨root, .table path, entries⟩
  | .tables path => do
    let (entries, root) ← changeAt (← l.close) openTables path
    return ⟨root, .tables path, entries⟩

end Layout

/-- The tree that statements describe. -/
def assemble (statements : List Statement) : Option Datum := do
  let layout ← statements.foldlM Layout.step .start
  return .table (datumFields (← layout.close))

/-- The tree of a document. -/
def parse (text : String) : Option Datum := do assemble (← statements text.toList)

end BrokerSession.Toml
