import BrokerSession.Config.Encode
import Mathlib.Data.List.Basic

/-!
# A configuration that was written is read back

Reader and writer of a configuration are two halves that were made apart. A retry policy is a table with a tag, a
payload is read from a text but written as a list of bytes, words stand for choices, and a field that is not set is
written as `null` or left out, as the format wants it. And yet reading what was written gives the configuration again.

A reader and a writer of one kind of data fit together when the one reads back what the other writes. The fields of a
record are found by their names, so a record is read back when each of its fields is. From the single values this
leads through the blocks to a whole configuration.

## Main definitions

* `ReadsBack` - a reader and a writer that fit together
* `Encode.written?` - what is written for something that may not be set

## Main results

* `Decode.record_table` - a record without an unusable and without a missing field is read
* `Config.readsBack_payload`, `Config.readsBack_retry`, … - the parts of a configuration
* `Config.readsBack` - a whole configuration
* `Decode.record_exchange` - a record with one piece of data in the place of another that is read the same
* `Config.read_of_written` - configurations, and payloads that are texts
-/

namespace BrokerSession

open Decode

/-- A reader reads back what a writer writes, in every format. What is written is not taken for nothing. -/
structure ReadsBack {α : Type} (decoder : Decoder α) (encoder : α → Datum) : Prop where
  decode_encode (format : DataFormat) (a : α) : decoder format (encoder a) = .ok a
  ne_null (a : α) : encoder a ≠ .null

section Records

variable {α : Type} {decoder : Decoder α} {encoder : α → Datum} {format : DataFormat} {absence : Absence}
  {name key : String} {checks : List FieldCheck} {fields late : List (String × Datum)} {d : Datum} {o : Option α}

/-! ## Fields by their names -/

namespace Encode

/-- What is written for a value that may not be set, if anything is. -/
def written? (absence : Absence) (encoder : α → Datum) : Option α → Option Datum
  | some a => some (encoder a)
  | none =>
    match absence with
    | .asNull => some .null
    | .leftOut => none

theorem optional_eq : optional absence name encoder o = (written? absence encoder o).toList.map (name, ·) := by
  cases o <;> cases absence <;> rfl

@[simp] theorem lookup_field : (field name d).lookup key = if key = name then some d else none := by
  by_cases same : key = name <;> simp [field, List.lookup_cons, same, beq_false_of_ne]

@[simp] theorem lookup_optional :
    (optional absence name encoder o).lookup key = if key = name then written? absence encoder o else none := by
  rw [optional_eq]
  cases written? absence encoder o <;> by_cases same : key = name <;> simp [List.lookup_cons, same, beq_false_of_ne]

end Encode

namespace Decode

/-- What is wrong with a piece of data for a reader. -/
def fault? (decoder : Decoder α) (format : DataFormat) (d : Datum) : Option DecodeFault :=
  match decoder format d with
  | .ok _ => none
  | .error fault => some fault

@[simp] theorem lookup_check (name key : String) (decoder : Decoder α) (format : DataFormat)
    (checks : List FieldCheck) :
    (check name decoder format :: checks).lookup key =
      if key = name then some (fault? decoder format) else checks.lookup key := by
  -- A check is the fault of its reader, under the name of its field.
  change ((name, fault? decoder format) :: checks).lookup key = _
  by_cases same : key = name <;> simp [List.lookup_cons, same, beq_false_of_ne]

@[simp] theorem firstUnusable?_append :
    firstUnusable? checks (fields ++ late) = (firstUnusable? checks fields).or (firstUnusable? checks late) :=
  List.findSome?_append

@[simp] theorem firstUnusable?_field :
    firstUnusable? checks (Encode.field name d) = (checks.lookup name).bind (· d) := by
  simp [firstUnusable?, Encode.field]

@[simp] theorem firstUnusable?_optional :
    firstUnusable? checks (Encode.optional absence name encoder o) =
      (Encode.written? absence encoder o).bind fun d => (checks.lookup name).bind (· d) := by
  rw [Encode.optional_eq]
  cases Encode.written? absence encoder o <;> simp [firstUnusable?]

/-- A record that is written as a table is read when none of its fields is unusable and none is missing. -/
theorem record_table {schema : Schema} (usable : firstUnusable? checks fields = none)
    (complete : schema.firstMissing? fields = none) : record schema checks format (.table fields) = .ok fields := by
  rw [record, record.settle, usable, complete]
  rfl

theorem field_eq : field fields name decoder format =
    (fields.lookup name).elim (.error (.missingField name)) (decoder format) := by
  rw [field]
  cases fields.lookup name <;> rfl

theorem fieldD_eq (fallback : α) : fieldD fields name decoder fallback format =
    (fields.lookup name).elim (.ok fallback) (decoder format) := by
  rw [fieldD]
  cases fields.lookup name <;> rfl

@[simp] theorem ok_bind {ε β : Type} (a : α) (f : α → Except ε β) : (Except.ok a >>= f) = f a := rfl

end Decode

/-! ## What is read back of a field -/

namespace ReadsBack

variable (reads : ReadsBack decoder encoder)
include reads

theorem optional_encode (a : α) : optional decoder format (encoder a) = .ok (some a) := by
  have present := reads.ne_null a
  unfold Decode.optional
  split
  · contradiction
  · rw [reads.decode_encode]
    rfl

theorem fault?_encode (a : α) : fault? decoder format (encoder a) = none := by
  rw [fault?, reads.decode_encode]

theorem fault?_written : ((Encode.written? absence encoder o).bind fun d =>
    fault? (Decode.optional decoder) format d) = none := by
  cases o with
  | some a => simp [Encode.written?, fault?, reads.optional_encode]
  | none => cases absence <;> simp [Encode.written?, fault?, Decode.optional]

/-- For what is proved of a record nothing matters about a reader, but that it reads back. -/
theorem sealed : ∃ reader, decoder = reader ∧ ReadsBack reader encoder := ⟨decoder, rfl, reads⟩

/-- A value that may not be set is read back, also when it is not. -/
theorem elim_written :
    (Encode.written? absence encoder o).elim (.ok none) (optional decoder format) = .ok o := by
  cases o with
  | some a => exact reads.optional_encode a
  | none => cases absence <;> rfl

end ReadsBack

/-! ## One piece of data in the place of another -/

namespace Decode

variable {β : Type} {before after : List (String × Datum)} {d' : Datum}

/-- In a table in which one piece of data stands in the place of another, the other fields are the same. -/
theorem lookup_exchange (d d' : Datum) {name : String} (other : name ≠ key) :
    (before ++ (key, d) :: after).lookup name = (before ++ (key, d') :: after).lookup name := by
  simp [List.lookup_append, List.lookup_cons, beq_false_of_ne other]

/-- The field itself is read the same, if the two are. -/
theorem elim_lookup_exchange {read : Datum → β} (same : read d = read d') (missing : β) :
    ((before ++ (key, d) :: after).lookup key).elim missing read =
      ((before ++ (key, d') :: after).lookup key).elim missing read := by
  rw [List.lookup_append, List.lookup_append]
  cases before.lookup key with
  | some found => rfl
  | none => simpa using same

theorem firstMissing?_exchange (schema : Schema) (d d' : Datum) :
    schema.firstMissing? (before ++ (key, d) :: after) = schema.firstMissing? (before ++ (key, d') :: after) := by
  -- A field is there or not, whatever it holds.
  have there (name : String) : ((before ++ (key, d) :: after).lookup name).isNone =
      ((before ++ (key, d') :: after).lookup name).isNone := by
    by_cases here : name = key
    · simp [here, List.lookup_append]
    · rw [lookup_exchange d d' here]
  simp only [Schema.firstMissing?, there]

theorem firstUnusable?_exchange (known : checks.lookup key = some (fault? decoder format))
    (same : decoder format d = decoder format d') :
    firstUnusable? checks (before ++ (key, d) :: after) = firstUnusable? checks (before ++ (key, d') :: after) := by
  rw [firstUnusable?_append, firstUnusable?_append]
  have fault : fault? decoder format d = fault? decoder format d' := by rw [fault?, fault?, same]
  simp [firstUnusable?, List.findSome?_cons, known, fault]

/-- A record is read the same with one piece of data in the place of another, if the two are read the same. -/
theorem record_exchange (decoder : Decoder α) {schema : Schema} {f : List (String × Datum) → Except DecodeFault β}
    (known : checks.lookup key = some (fault? decoder format)) (same : decoder format d = decoder format d')
    (rest : f (before ++ (key, d) :: after) = f (before ++ (key, d') :: after)) :
    (record schema checks format (.table (before ++ (key, d) :: after)) >>= f) =
      record schema checks format (.table (before ++ (key, d') :: after)) >>= f := by
  simp only [record, record.settle, firstMissing?_exchange schema d d', firstUnusable?_exchange known same]
  cases firstUnusable? checks (before ++ (key, d') :: after) <|>
      schema.firstMissing? (before ++ (key, d') :: after) with
  | some fault => rfl
  | none => exact rest

end Decode

end Records

/-! ## Single values -/

theorem readsBack_text : ReadsBack text .text := ⟨fun _ _ => rfl, fun _ => nofun⟩

theorem readsBack_path : ReadsBack path .text := ⟨fun _ _ => rfl, fun _ => nofun⟩

theorem readsBack_bool : ReadsBack bool .bool := ⟨fun _ _ => rfl, fun _ => nofun⟩

theorem bounded_natCast {bound n : Nat} (name : String) (format : DataFormat) (inside : n < bound) :
    bounded bound name format (.int n) = .ok n := by
  have fits : 0 ≤ (n : Int) ∧ (n : Int) < bound := by omega
  rw [bounded, if_pos fits, Int.toNat_natCast]

theorem readsBack_word16 : ReadsBack word16 fun n => .int n.toNat where
  decode_encode format n := by
    rw [word16, bounded_natCast _ _ n.toNat_lt]
    exact congrArg _ (UInt16.ofNat_toNat)
  ne_null _ := nofun

theorem readsBack_word32 : ReadsBack word32 fun n => .int n.toNat where
  decode_encode format n := by
    rw [word32, bounded_natCast _ _ n.toNat_lt]
    exact congrArg _ (UInt32.ofNat_toNat)
  ne_null _ := nofun

/-- A choice is read back when each of its values has a word that stands for it. -/
theorem readsBack_choice {α : Type} [DecidableEq α] {words : List (String × α)}
    (known : ∀ a, pick words (((words.find? (·.2 == a)).map (·.1)).getD "") = .ok a) :
    ReadsBack (choice words) (Encode.word words) where
  decode_encode format a := by
    rw [Encode.word, choice.eq_def]
    exact known a
  ne_null _ := nofun

namespace Config

theorem readsBack_qos : ReadsBack (choice Decode.qosWords) (Encode.word Decode.qosWords) :=
  readsBack_choice fun qos => by cases qos <;> rfl

theorem readsBack_version : ReadsBack (choice Decode.versionWords) (Encode.word Decode.versionWords) :=
  readsBack_choice fun version => by cases version <;> rfl

theorem readsBack_clientIdPolicy :
    ReadsBack (choice Decode.clientIdPolicyWords) (Encode.word Decode.clientIdPolicyWords) :=
  readsBack_choice fun policy => by cases policy <;> rfl

theorem readsBack_peerCheck : ReadsBack (choice Decode.peerCheckWords) (Encode.word Decode.peerCheckWords) :=
  readsBack_choice fun peerCheck => by cases peerCheck <;> rfl

/-! ## Payloads and retry policies -/

theorem byte?_toNat (b : UInt8) : Decode.byte? (.int b.toNat) = some b := by
  have bound := b.toNat_lt
  have fits : 0 ≤ (b.toNat : Int) ∧ (b.toNat : Int) < 256 := by omega
  rw [Decode.byte?, if_pos fits, Int.toNat_natCast, UInt8.ofNat_toNat]

theorem mapM_byte? (bytes : List UInt8) :
    (bytes.map fun b => Datum.int b.toNat).mapM Decode.byte? = some bytes := by
  induction bytes with
  | nil => rfl
  | cons b bytes ih => simp [byte?_toNat, ih]

/-- A payload is read back byte by byte, whether or not the bytes are a text. -/
theorem readsBack_payload : ReadsBack Decode.payload Encode.payload where
  decode_encode format bytes := by
    rw [Encode.payload, Decode.payload, mapM_byte?]
  ne_null _ := nofun

/-- A retry policy is found by its tag, and its other fields are what is left of the table without it. -/
theorem retry_field {word : String} {retries : Bool} (format : DataFormat) (fields : List (String × Datum))
    (stands : pick Decode.retryWords word = .ok retries) (untagged : ∀ entry ∈ fields, entry.1 ≠ Decode.retryTag) :
    Decode.retry format (.table (Encode.field Decode.retryTag (.text word) ++ fields)) =
      if retries then Decode.backoff format (.table fields) else .ok .disabled := by
  have left : (Encode.field Decode.retryTag (.text word) ++ fields).filter (fun entry => entry.1 != Decode.retryTag) =
      fields := by
    rw [List.filter_append, List.filter_eq_self.mpr fun entry among => bne_iff_ne.mpr (untagged entry among)]
    simp [Encode.field]
  rw [Decode.retry, List.lookup_append, Encode.lookup_field, if_pos rfl, Option.some_or]
  change (pick Decode.retryWords word >>= _) = _
  rw [stands, ok_bind, left]
  rfl

theorem readsBack_retry : ReadsBack Decode.retry Encode.retry where
  decode_encode format policy := by
    cases policy with
    | disabled =>
      have stands : pick Decode.retryWords "disabled" = .ok false := by rfl
      have read := retry_field format [] stands nofun
      rwa [List.append_nil] at read
    | backoff initial ceiling quadratic =>
      have stands : pick Decode.retryWords "backoff" = .ok true := by rfl
      rw [Encode.retry, List.append_assoc, List.append_assoc, retry_field format _ stands, if_pos rfl, Decode.backoff]
      -- From here on the reader of numbers is any one that fits: its bound is too large to be counted to.
      obtain ⟨reader, same, number⟩ := readsBack_word32.sealed
      rw [same, record_table]
      · simp [field_eq, fieldD_eq, List.lookup_append, number.decode_encode, readsBack_bool.decode_encode,
          Except.map_ok]
      · simp [number.fault?_encode, readsBack_bool.fault?_encode]
      · simp [Schema.firstMissing?, Decode.backoffSchema, List.lookup_append]
      · simp [Encode.field, Decode.retryTag]
  ne_null policy := by cases policy <;> exact nofun

/-! ## Blocks -/

theorem readsBack_will : ReadsBack Decode.will Encode.will where
  decode_encode format w := by
    rw [Encode.will, Decode.will, record_table]
    · simp [field_eq, fieldD_eq, List.lookup_append, readsBack_text.decode_encode, readsBack_payload.decode_encode,
        readsBack_qos.decode_encode, readsBack_bool.decode_encode, Except.map_ok]
    · simp [readsBack_text.fault?_encode, readsBack_payload.fault?_encode, readsBack_qos.fault?_encode,
        readsBack_bool.fault?_encode]
    · simp [Schema.firstMissing?, Decode.willSchema, List.lookup_append]
  ne_null _ := nofun

theorem readsBack_publish : ReadsBack Decode.publish Encode.publish where
  decode_encode format p := by
    rw [Encode.publish, Decode.publish]
    obtain ⟨reader, same, number⟩ := readsBack_word32.sealed
    rw [same, record_table]
    · simp [field_eq, List.lookup_append, number.decode_encode, Except.map_ok]
    · simp [number.fault?_encode]
    · simp [Schema.firstMissing?, Decode.publishSchema, List.lookup_append]
  ne_null _ := nofun

section Blocks

variable (absence : Absence)

theorem readsBack_credentials : ReadsBack Decode.credentials (Encode.credentials absence) where
  decode_encode format k := by
    rw [Encode.credentials, Decode.credentials, record_table]
    · simp [field_eq, fieldD_eq, List.lookup_append, readsBack_text.decode_encode, readsBack_text.elim_written,
        Except.map_ok]
    · simp [readsBack_text.fault?_encode, readsBack_text.fault?_written]
    · simp [Schema.firstMissing?, Decode.credentialsSchema, List.lookup_append]
  ne_null _ := nofun

theorem readsBack_serverCert : ReadsBack Decode.serverCert (Encode.serverCert absence) where
  decode_encode format s := by
    rw [Encode.serverCert, Decode.serverCert, record_table]
    · simp [fieldD_eq, List.lookup_append, readsBack_path.elim_written, Except.map_ok]
    · simp [readsBack_path.fault?_written]
    · simp [Schema.firstMissing?, Decode.serverCertSchema]
  ne_null _ := nofun

theorem readsBack_clientCert : ReadsBack Decode.clientCert (Encode.clientCert absence) where
  decode_encode format k := by
    rw [Encode.clientCert, Decode.clientCert, record_table]
    · simp [field_eq, fieldD_eq, List.lookup_append, readsBack_path.decode_encode, readsBack_text.elim_written,
        Except.map_ok]
    · simp [readsBack_path.fault?_encode, readsBack_text.fault?_written]
    · simp [Schema.firstMissing?, Decode.clientCertSchema, List.lookup_append]
  ne_null _ := nofun

theorem readsBack_tls : ReadsBack Decode.tls (Encode.tls absence) where
  decode_encode format t := by
    rw [Encode.tls, Decode.tls, record_table]
    · simp [fieldD_eq, List.lookup_append, readsBack_bool.decode_encode, readsBack_peerCheck.decode_encode,
        readsBack_text.elim_written, Except.map_ok]
    · simp [readsBack_bool.fault?_encode, readsBack_peerCheck.fault?_encode, readsBack_text.fault?_written]
    · simp [Schema.firstMissing?, Decode.tlsSchema]
  ne_null _ := nofun

theorem readsBack_psk : ReadsBack Decode.psk (Encode.psk absence) where
  decode_encode format p := by
    rw [Encode.psk, Decode.psk, record_table]
    · simp [field_eq, fieldD_eq, List.lookup_append, readsBack_text.decode_encode, readsBack_text.elim_written,
        Except.map_ok]
    · simp [readsBack_text.fault?_encode, readsBack_text.fault?_written]
    · simp [Schema.firstMissing?, Decode.pskSchema, List.lookup_append]
  ne_null _ := nofun

end Blocks

/-! ## The whole configuration -/

/-- A configuration is read back as it was written. -/
theorem readsBack (absence : Absence) : ReadsBack decode (encode absence) where
  decode_encode format c := by
    rw [encode, decode, Decode.checks]
    obtain ⟨reader, same, number⟩ := readsBack_word16.sealed
    rw [same, record_table]
    · simp [field_eq, fieldD_eq, List.lookup_append, readsBack_text.decode_encode, number.decode_encode,
        readsBack_bool.decode_encode, readsBack_version.decode_encode, readsBack_clientIdPolicy.decode_encode,
        readsBack_retry.decode_encode, readsBack_will.elim_written, (readsBack_credentials absence).elim_written,
        readsBack_publish.elim_written, (readsBack_serverCert absence).elim_written,
        (readsBack_clientCert absence).elim_written, (readsBack_tls absence).elim_written,
        (readsBack_psk absence).elim_written, Except.map_ok]
    · simp [readsBack_text.fault?_encode, number.fault?_encode, readsBack_bool.fault?_encode,
        readsBack_version.fault?_encode, readsBack_clientIdPolicy.fault?_encode, readsBack_retry.fault?_encode,
        readsBack_will.fault?_written, (readsBack_credentials absence).fault?_written,
        readsBack_publish.fault?_written, (readsBack_serverCert absence).fault?_written,
        (readsBack_clientCert absence).fault?_written, (readsBack_tls absence).fault?_written,
        (readsBack_psk absence).fault?_written]
    · simp [Schema.firstMissing?, Decode.schema, List.lookup_append]
  ne_null _ := nofun

/-! ## Texts in place of bytes -/

section Payload

variable {format : DataFormat} {before after : List (String × Datum)} {d d' : Datum}

/-- A will is read the same with one payload in the place of another, if the two are read the same. -/
theorem will_exchange (before after : List (String × Datum))
    (same : Decode.payload format d = Decode.payload format d') :
    Decode.will format (.table (before ++ ("payload", d) :: after)) =
      Decode.will format (.table (before ++ ("payload", d') :: after)) := by
  refine record_exchange Decode.payload (by simp) same ?_
  simp only [field_eq, fieldD_eq, elim_lookup_exchange same, ne_eq, String.reduceEq, not_false_eq_true,
    lookup_exchange d d']

/-- A configuration is read the same with one will in the place of another, if the two are read the same. -/
theorem decode_exchange (same : optional Decode.will format d = optional Decode.will format d') :
    decode format (.table (before ++ ("will", d) :: after)) =
      decode format (.table (before ++ ("will", d') :: after)) := by
  refine record_exchange (Decode.optional Decode.will) (by simp [Decode.checks]) same ?_
  simp only [field_eq, fieldD_eq, elim_lookup_exchange same, ne_eq, String.reduceEq, not_false_eq_true,
    lookup_exchange d d']

end Payload

/-- A configuration is read back as it was written, in every format, and whatever is written for what is not set. And a
payload may be written as a text as well: it is read as the list of the bytes of that text is, so that a configuration
with the one in the place of the other is read the same, with the same fault if there is one. -/
theorem read_of_written (format : DataFormat) :
    (∀ (absence : Absence) (c : Config), decode format (encode absence c) = .ok c) ∧
    ∀ s : String,
      Decode.payload format (.text s) = .ok s.toByteArray ∧
      Decode.payload format (Encode.payload s.toByteArray) = .ok s.toByteArray ∧
      ∀ before after first last : List (String × Datum),
        decode format (.table (before ++ ("will", .table (first ++ ("payload", .text s) :: last)) :: after)) =
          decode format (.table (before ++
            ("will", .table (first ++ ("payload", Encode.payload s.toByteArray) :: last)) :: after)) := by
  refine ⟨fun absence c => (readsBack absence).decode_encode format c, fun s => ?_⟩
  have bytes := readsBack_payload.decode_encode format s.toByteArray
  refine ⟨rfl, bytes, fun before after first last => ?_⟩
  have payload : Decode.payload format (.text s) = Decode.payload format (Encode.payload s.toByteArray) := bytes.symm
  have will := congrArg (Except.map some) (will_exchange first last payload)
  exact decode_exchange will

end Config

end BrokerSession
