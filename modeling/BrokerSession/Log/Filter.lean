import BrokerSession.Log

/-!
# Which records are written

A filter is a list of rules, each of which lets records from some places through from a level on. The rule for the
longest name of a place decides; a record that no rule is about is not written.

## Main definitions

* `Log.Rule` - from which level on records of a place are written
* `Log.Filter.ofText` - the filter that a text describes
* `Log.Filter.passes` - whether a record is written
-/

namespace BrokerSession.Log

/-- From which level on the records of a place are written. -/
structure Rule where
  /-- What the name of the place begins with; none for all places. -/
  place : Option String
  /-- None for no records at all. -/
  level : Option Level
  deriving DecidableEq, Repr

/-- Rules, of which the most specific one decides. -/
abbrev Filter := List Rule

/-- The meaning of a word for a level, or for none; nothing for another word. -/
def Rule.level? (word : String) : Option (Option Level) :=
  let lower := word.toLower
  if lower == "off" || word == "0" then some none
  else if word.isEmpty then some (some .error)
  else
    (Level.all.find? fun level => level.name.toLower == lower || toString level.rank == word).map some

/-- A rule: a level, the beginning of a name, or both with an equals sign between them. -/
def Rule.ofText? (text : String) : Option Rule :=
  match text.toList.splitOn '=' with
  | [_] =>
    match Rule.level? text with
    | some level => some ⟨none, level⟩
    | none => some ⟨some text, some .trace⟩
  | [place, level] => (Rule.level? (String.ofList level)).map fun level => ⟨some (String.ofList place), level⟩
  | _ => none

namespace Filter

/-- Records from a level on, from everywhere. -/
def ofLevel (level : Level) : Filter := [⟨none, some level⟩]

/-- The filter that rules with commas between them describe; errors only, if there is none. -/
def ofText (text : String) : Filter :=
  match ((text.toList.splitOn ',').map String.ofList).filterMap fun rule =>
      if rule.isEmpty then none else Rule.ofText? rule with
  | [] => ofLevel .error
  | rules => rules

/-- How specific a rule is about a place; nothing when it is not about it. -/
def rank? (place : String) (r : Rule) : Option Nat :=
  match r.place with
  | none => some 0
  | some head => if head.isPrefixOf place then some (head.length + 1) else none

/-- The most specific rule about a place; the later of two that are equally specific. -/
def rule? (f : Filter) (place : String) : Option Rule :=
  (f.foldl (fun best r =>
    match rank? place r, best with
    | none, _ => best
    | some n, none => some (n, r)
    | some n, some (m, _) => if m ≤ n then some (n, r) else best) (none : Option (Nat × Rule))).map (·.2)

/-- Whether a record is written. -/
def passes (f : Filter) (r : Record) : Bool :=
  ((f.rule? r.place).bind (·.level)).any fun asked => asked.shows r.level

end Filter

end BrokerSession.Log
