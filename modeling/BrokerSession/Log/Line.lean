import BrokerSession.Log
import BrokerSession.Text.Hex
import BrokerSession.Text.Quoted

/-!
# Records as lines

A record is written on a line of its own: its level, and what it says. The layout decides how its details, its
place and the session that was being made at the time appear beside its text.

## Main definitions

* `Log.Record.shown` - what a record says in a layout, without its level
* `Log.Record.line` - the whole line
-/

namespace BrokerSession.Log

/-- The name under which a session appears around the records of its making. -/
def sessionName : String := "mqtt_session"

/-! ## As text -/

/-- A value in a text. -/
def Value.shown : Value → String
  | quoted text => Quoted.encode text
  | plain text => text
  | number n => toString n

/-- Details in a text, each behind its name. -/
def showDetails (between mark : String) (details : List (String × Value)) : String :=
  String.join (details.map fun (name, value) => between ++ name ++ mark ++ value.shown)

/-! ## As an object -/

/-- A character of a text in an object. -/
def objectChar (c : Char) : List Char :=
  if c = '"' ∨ c = '\\' then ['\\', c]
  else if c = '\x08' then ['\\', 'b']
  else if c = '\t' then ['\\', 't']
  else if c = '\n' then ['\\', 'n']
  else if c = '\x0c' then ['\\', 'f']
  else if c = '\r' then ['\\', 'r']
  else if c < ' ' then "\\u00".toList ++ Hex.encodeByte (UInt8.ofNat c.toNat)
  else [c]

/-- A text in an object. -/
def objectText (text : String) : String :=
  String.ofList ('"' :: text.toList.flatMap objectChar ++ ['"'])

/-- A value in an object. -/
def Value.inObject : Value → String
  | quoted text => objectText text
  | plain text => objectText text
  | number n => toString n

/-- An object of members that are already written. -/
def object (members : List (String × String)) : String :=
  "\x7b" ++ ",".intercalate (members.map fun (name, value) => objectText name ++ ":" ++ value) ++ "\x7d"

/-! ## Lines -/

namespace Record

/-- What a record says in a layout. On several lines it begins with its place; on one line the session that was
being made stands around it. -/
def shown (layout : Layout) (r : Record) : String :=
  match layout, r.session with
  | .json, _ => r.text
  | .pretty, _ => r.place ++ ": " ++ r.text ++ showDetails ", " ": " r.details
  | .compact, none => r.text ++ showDetails " " "=" r.details
  | .compact, some id =>
    sessionName ++ ": " ++ r.text ++ showDetails " " "=" r.details ++ " client_id=" ++ id

/-- A record as an object: its level, its text and its details, its place, and the session around it. -/
def asObject (r : Record) : String :=
  let fields := ("message", objectText r.text) :: r.details.map fun (name, value) => (name, value.inObject)
  let around := match r.session with
    | none => []
    | some id =>
      let span := object [("client_id", objectText id), ("name", objectText sessionName)]
      [("span", span), ("spans", "[" ++ span ++ "]")]
  object ([("level", objectText r.level.name), ("fields", object fields), ("target", objectText r.place)] ++
    around)

/-- A record on its line. -/
def line (layout : Layout) (r : Record) : String :=
  match layout with
  | .json => r.asObject
  | _ => r.level.name ++ " " ++ r.shown layout

end Record

end BrokerSession.Log
