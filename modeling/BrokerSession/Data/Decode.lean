import BrokerSession.Data.Datum

/-!
# Reading typed values from a tree of data

A decoder turns a tree of data into a value, or says what is wrong. The fields of a record are read in the
order in which they were written, so that the first unusable field is the one that is reported; a field that
is missing is noticed only after that. Unknown fields are nobody's concern. A record may also be written as a
list of its fields in their order.

## Main definitions

* `DecodeFault`, `DecodeFault.message` - what is wrong with a tree
* `Decoder` - a way of reading trees of a format
* `Decode.text`, `Decode.bool`, `Decode.word16`, `Decode.word32` - single values
* `Decode.choice` - one of several words
* `Decode.Schema`, `Decode.record` - the fields of a record
-/

namespace BrokerSession

/-- What is wrong with a tree of data. -/
inductive DecodeFault where
  | missingField (name : String)
  | unknownVariant (found : String) (expected : List String)
  /-- A piece of data of a kind that does not fit. -/
  | invalidType (found expected : String)
  /-- A piece of data of the right kind, but out of range. -/
  | invalidValue (found expected : String)
  | invalidLength (length : Nat) (expected : String)
  /-- A payload that is neither a text nor a list of bytes. -/
  | noPayload
  | notWordOrTable
  | notOneEntry (tooMany : Bool)
  | notEmptyTable
  deriving DecidableEq, Repr, Inhabited

namespace DecodeFault

/-- Words to choose from, in a sentence. -/
def alternatives : List String → String
  | [] => "there are no variants"
  | [a] => "expected `" ++ a ++ "`"
  | [a, b] => "expected `" ++ a ++ "` or `" ++ b ++ "`"
  | words => "expected one of " ++ ", ".intercalate (words.map fun w => "`" ++ w ++ "`")

/-- The sentence for a fault. -/
def message : DecodeFault → String
  | missingField name => "missing field `" ++ name ++ "`"
  | unknownVariant found expected => "unknown variant `" ++ found ++ "`, " ++ alternatives expected
  | invalidType found expected => "invalid type: " ++ found ++ ", expected " ++ expected
  | invalidValue found expected => "invalid value: " ++ found ++ ", expected " ++ expected
  | invalidLength length expected =>
    "invalid length " ++ toString length ++ ", expected " ++ expected
  | noPayload => "data did not match any variant of untagged enum Payload"
  | notWordOrTable => "wanted string or table"
  | notOneEntry tooMany =>
    "wanted exactly 1 element, " ++ if tooMany then "more than 1 element" else "found 0 elements"
  | notEmptyTable => "expected empty table"

end DecodeFault

/-- A way of reading values from trees of a format. -/
abbrev Decoder (α : Type) := DataFormat → Datum → Except DecodeFault α

namespace Decode

/-- The fault of a kind that does not fit. -/
def mismatch {α : Type} (format : DataFormat) (found : Datum) (expected : String) :
    Except DecodeFault α :=
  .error (.invalidType (found.describe format) expected)

/-- A text. -/
def text : Decoder String
  | _, .text s => .ok s
  | format, d => mismatch format d "a string"

/-- A path, written as a text. -/
def path : Decoder String
  | _, .text s => .ok s
  | format, d => mismatch format d "path string"

/-- A truth value. -/
def bool : Decoder Bool
  | _, .bool b => .ok b
  | format, d => mismatch format d "a boolean"

/-- An integer below a bound, whose type has a name. -/
def bounded (bound : Nat) (name : String) : Decoder Nat
  | format, .int n =>
    if 0 ≤ n ∧ n < bound then .ok n.toNat
    else .error (.invalidValue ((Datum.int n).describe format) name)
  | format, d => mismatch format d name

/-- An integer of 16 bits. -/
def word16 : Decoder UInt16 := fun format d => (bounded 65536 "u16" format d).map UInt16.ofNat

/-- An integer of 32 bits. -/
def word32 : Decoder UInt32 := fun format d => (bounded 4294967296 "u32" format d).map UInt32.ofNat

/-- A value that may be left out by writing `null`. -/
def optional {α : Type} (decoder : Decoder α) : Decoder (Option α)
  | _, .null => .ok none
  | format, d => (decoder format d).map some

/-- The value that a word stands for. -/
def pick {α : Type} (words : List (String × α)) (word : String) : Except DecodeFault α :=
  match words.lookup word with
  | some a => .ok a
  | none => .error (.unknownVariant word (words.map (·.1)))

/-- A value out of several that have a word each. A table with that word as its only key, and nothing under it,
is accepted as well. -/
def choice {α : Type} (words : List (String × α)) : Decoder α
  | _, .text word => pick words word
  | .toml, .table [(word, under)] => do
    let a ← pick words word
    match under with
    | .table [] => return a
    | .list [] => return a
    | _ => throw .notEmptyTable
  | .toml, .table fields => .error (.notOneEntry (!fields.isEmpty))
  | .toml, _ => .error .notWordOrTable
  | .json, .table [(word, under)] => do
    let a ← pick words word
    match under with
    | .null => return a
    | d => mismatch .json d "unit"
  | .json, .table _ => .error (.invalidValue "map" "map with a single key")
  | .json, d => mismatch .json d "string or map"

/-- What becomes of a field that is not there. -/
inductive Presence where
  | required
  /-- Stands for nothing. -/
  | absent
  /-- Has a default. -/
  | defaulted
  deriving DecidableEq, Repr

/-- The fields of a record: the name of its kind, and each field with what becomes of it when it is missing. -/
structure Schema where
  title : String
  fields : List (String × Presence)

/-- The first field that must be there and is not. -/
def Schema.firstMissing? (schema : Schema) (fields : List (String × Datum)) : Option DecodeFault :=
  (schema.fields.find? fun (name, presence) =>
    presence == .required && (fields.lookup name).isNone).map fun (name, _) => .missingField name

/-- The first field that a list leaves open although it has no default. -/
def Schema.firstOpen? (schema : Schema) (count : Nat) : Option DecodeFault :=
  (schema.fields.zipIdx.find? fun ((_, presence), i) =>
    presence != .defaulted && count ≤ i).map fun (_, i) =>
      .invalidLength i (schema.title ++ " with " ++ toString schema.fields.length ++ " elements")

/-- A check of one field of a record. -/
abbrev FieldCheck := String × (Datum → Option DecodeFault)

/-- A check that a field can be read. -/
def check {α : Type} (name : String) (decoder : Decoder α) (format : DataFormat) : FieldCheck :=
  (name, fun d =>
    match decoder format d with
    | .ok _ => none
    | .error fault => some fault)

/-- The first unusable field, in the order in which the fields were written. -/
def firstUnusable? (checks : List FieldCheck) (fields : List (String × Datum)) : Option DecodeFault :=
  fields.findSome? fun (name, d) => (checks.lookup name).bind (· d)

/-- A list of fields that goes on after the last one. -/
def Schema.surplus? (schema : Schema) (format : DataFormat) (count : Nat) : Option DecodeFault :=
  if format == .json && schema.fields.length < count then
    some (.invalidLength count "fewer elements in array")
  else none

/-- The fields of a record, in the order in which they were written, once none is missing and all can be
read. -/
def record (schema : Schema) (checks : List FieldCheck) :
    DataFormat → Datum → Except DecodeFault (List (String × Datum))
  | _, .table fields => settle (schema.firstMissing? fields) fields
  | _, .moment => settle (schema.firstMissing? []) []
  | format, .list items =>
    settle (schema.firstOpen? items.length <|> schema.surplus? format items.length)
      ((schema.fields.map (·.1)).zip items)
  | format, d => mismatch format d schema.title
where
  /-- An unusable field is reported before a missing one. -/
  settle (missing : Option DecodeFault) (fields : List (String × Datum)) :
      Except DecodeFault (List (String × Datum)) :=
    match firstUnusable? checks fields <|> missing with
    | some fault => .error fault
    | none => .ok fields

/-- A field of a record that has to be there. -/
def field {α : Type} (fields : List (String × Datum)) (name : String) (decoder : Decoder α)
    (format : DataFormat) : Except DecodeFault α :=
  match fields.lookup name with
  | some d => decoder format d
  | none => .error (.missingField name)

/-- A field of a record that has a default. -/
def fieldD {α : Type} (fields : List (String × Datum)) (name : String) (decoder : Decoder α)
    (fallback : α) (format : DataFormat) : Except DecodeFault α :=
  match fields.lookup name with
  | some d => decoder format d
  | none => .ok fallback

end Decode

end BrokerSession
