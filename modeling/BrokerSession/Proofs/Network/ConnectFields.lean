import BrokerSession.Proofs.Network.FirstConnect

/-!
# The fields that a connection is opened with

The first packet of a connection carries the identifier of the client, the will and the login, one behind the other.
Each of them is a field: two bytes that say how long it is, and then its bytes. A longer field than two bytes can count
is written with a length that is too small, and whoever reads the packet loses the thread there.

What is configured comes into that packet as it is, so its lengths are those of the configuration. The topic of a will
is checked against the limit of a field, and an identifier that is made up or checked strictly is far below it. An
identifier under the other policy is left to the broker, and nothing here looks at its length.

## Main definitions

* `Field.written`, `Field.read`, `Field.readAll` - fields on the wire
* `Dial.fields`, `Config.connectFields` - the fields of a connection, and of a configuration

## Main results

* `Field.readAll_written_iff` - fields are read back exactly if their lengths can be counted in two bytes
* `NetworkEngine.stage_renamed` - the broker's policy leaves room for every identifier
* `connectFields_of_stage` - the fields of an accepted configuration
* `connectFields_too_long` - a configuration that is accepted and whose fields do not fit
-/

namespace BrokerSession

/-! ## Fields on the wire -/

namespace Field

/-- The largest length that two bytes can say. -/
def maxBytes : Nat := 65535

/-- A field on the wire: its length in two bytes, the larger one first, and its bytes. -/
def written (bytes : ByteArray) : List UInt8 :=
  .ofNat (bytes.size / 256) :: .ofNat bytes.size :: bytes.data.toList

/-- The first field of what is on the wire, and what comes behind it. -/
def read : List UInt8 → Option (ByteArray × List UInt8)
  | high :: low :: rest =>
    let length := high.toNat * 256 + low.toNat
    if length ≤ rest.length then some (⟨(rest.take length).toArray⟩, rest.drop length) else none
  | _ => none

/-- As many fields as there should be, and what comes behind them. -/
def readAll : Nat → List UInt8 → Option (List ByteArray × List UInt8)
  | 0, wire => some ([], wire)
  | n + 1, wire => do
    let (field, wire) ← read wire
    let (fields, wire) ← readAll n wire
    return (field :: fields, wire)

variable {bytes : ByteArray} {rest : List UInt8}

/-- Of a length that does not fit, two bytes keep the remainder. -/
theorem length_written (size : Nat) :
    (UInt8.ofNat (size / 256)).toNat * 256 + (UInt8.ofNat size).toNat = size % 65536 := by
  rw [UInt8.toNat_ofNat', UInt8.toNat_ofNat']
  omega

/-- As much is read of a field as its length says. -/
theorem read_written (bytes : ByteArray) (rest : List UInt8) :
    read (written bytes ++ rest) =
      some (⟨((bytes.data.toList ++ rest).take (bytes.size % 65536)).toArray⟩,
        (bytes.data.toList ++ rest).drop (bytes.size % 65536)) := by
  have enough : bytes.size % 65536 ≤ (bytes.data.toList ++ rest).length := by
    have := Nat.mod_le bytes.size 65536
    have : bytes.data.toList.length = bytes.size := Array.length_toList
    rw [List.length_append]
    omega
  simp only [written, List.cons_append, read, length_written, if_pos enough]

/-- A field whose length fits is read back, and what comes behind it is left. -/
theorem read_written_of_le (fits : bytes.size ≤ maxBytes) (rest : List UInt8) :
    read (written bytes ++ rest) = some (bytes, rest) := by
  have length : bytes.size % 65536 = bytes.data.toList.length := by
    rw [Array.length_toList]
    exact Nat.mod_eq_of_lt (Nat.lt_succ_of_le fits)
  rw [read_written, length, List.take_left, List.drop_left, Array.toArray_toList]

/-- What is read of a field whose length does not fit is not the field. -/
theorem le_of_read_written {wire : List UInt8} (read_back : read (written bytes ++ rest) = some (bytes, wire)) :
    bytes.size ≤ maxBytes := by
  rw [read_written] at read_back
  have same := congrArg ByteArray.size (Prod.mk.inj (Option.some.inj read_back)).1
  have short : bytes.size ≤ bytes.size % 65536 := by
    rw [ByteArray.size, List.size_toArray, List.length_take] at same
    omega
  have below := Nat.mod_lt bytes.size (Nat.succ_pos 65535)
  unfold maxBytes
  omega

/-- Fields are read back exactly if all their lengths fit. -/
theorem readAll_written_iff (fields : List ByteArray) (rest : List UInt8) :
    readAll fields.length (fields.flatMap written ++ rest) = some (fields, rest) ↔
      ∀ field ∈ fields, field.size ≤ maxBytes := by
  induction fields with
  | nil => simp [readAll]
  | cons field fields ih =>
    rw [List.forall_mem_cons, ← ih, List.flatMap_cons, List.append_assoc, List.length_cons, readAll]
    constructor
    · intro read_back
      simp only [Option.bind_eq_bind, Option.bind_eq_some_iff, Option.pure_def, Option.some.injEq, Prod.mk.injEq,
        List.cons.injEq, Prod.exists] at read_back
      obtain ⟨first, wire, head, others, left, tail, ⟨rfl, rfl⟩, rfl⟩ := read_back
      -- The first field fits, so the others are read from where they begin.
      have fits := le_of_read_written head
      rw [read_written_of_le fits] at head
      obtain ⟨-, rfl⟩ := Prod.mk.inj (Option.some.inj head)
      exact ⟨fits, tail⟩
    · rintro ⟨fits, tail⟩
      simp [read_written_of_le fits, tail]

end Field

/-! ## The fields of a connection -/

/-- The fields that a connection is opened with, in the order in which they are written. -/
def Dial.fields (d : Dial) : List ByteArray :=
  d.clientId.toByteArray :: (d.will.elim [] fun w => [w.topic.toByteArray, w.payload]) ++
    d.login.elim [] fun (username, password) => [username.toByteArray, password.toByteArray]

namespace Config

/-- The fields of a configuration, under the identifier of a session. A password that cannot be found is empty. -/
def connectFields (c : Config) (env : Environment) (clientId : String) : List ByteArray :=
  clientId.toByteArray :: (c.will.elim [] fun w => [w.topic.toByteArray, w.payload]) ++
    c.credentials.elim [] fun k => [k.username.toByteArray, (k.secret env).toByteArray]

variable {fs : Files} {c : Config}

/-- The fields of a connection are those of the configuration that it was handed on from. -/
theorem connectFields_eq {env : Environment} {d : Dial} {clientId : String} (named : d.clientId = clientId)
    (willed : d.will = c.will) (login : d.login = c.credentials.map fun k => (k.username, k.secret env)) :
    d.fields = c.connectFields env clientId := by
  rw [Dial.fields, connectFields, named, willed, login]
  cases c.credentials <;> rfl

/-- The topic of a will is checked against the limit of a field. -/
theorem Usable.size_topic_le (usable : c.Usable fs) {w : Will} (willed : c.will = some w) :
    w.topic.toByteArray.size ≤ Field.maxBytes := by
  have named := (usable_iff_sound.mp usable).will w willed
  rw [String.size_toByteArray]
  exact (Topic.name_iff.mp named).2.1

/-- An identifier that the policy limits is short, and so is one that is made up. -/
theorem length_effectiveClientId_le {digits : String} (usable : c.Usable fs) (drawn : MadeUp digits)
    (limited : c.clientIdPolicy = .strict ∨ c.clientId = "") : (c.effectiveClientId digits).length ≤ 45 := by
  obtain ⟨length, -⟩ := drawn
  by_cases unnamed : c.clientId = ""
  · have empty : c.clientId.isEmpty = true := by simp [unnamed]
    rw [effectiveClientId, if_pos empty]
    cases c.clientIdPolicy with
    | strict =>
      have cut : (digits.toList.take 23).length ≤ 23 := List.length_take_le ..
      simp only [ClientIdPolicy.limit?, ClientId.strictLimit, String.length_ofList]
      omega
    | brokerDefined =>
      have head : generatedHead.length = 13 := by decide
      simp [ClientIdPolicy.limit?, head, length]
  · have strict := limited.resolve_right unnamed
    obtain ⟨short, -⟩ := (usable_iff_sound.mp usable).clientId
    rw [effectiveClientId_of_ne unnamed]
    exact Nat.le_trans (short strict) (by decide)

/-- No character takes more than four bytes. -/
theorem utf8ByteSize_le (s : String) : s.utf8ByteSize ≤ 4 * s.length := by
  induction s using String.push_induction with
  | empty => exact Nat.zero_le _
  | push s d ih =>
    have := d.utf8Size_le_four
    rw [String.utf8ByteSize_push, String.length_push]
    omega

/-! ## Other identifiers -/

/-- Where the broker decides, a usable configuration stays so under every identifier without a NUL. -/
theorem Usable.renamed (usable : c.Usable fs) (left : c.clientIdPolicy = .brokerDefined) {clientId : String}
    (named : clientId ≠ "") (clean : '\x00' ∉ clientId.toList) : ({ c with clientId } : Config).Usable fs := by
  rw [usable_iff_sound] at usable ⊢
  exact
    { usable with
      clientId := ⟨fun strict => by simp [left] at strict, clean⟩
      anonymous := fun unnamed => absurd unnamed named }

end Config

/-- Whether an option says who the client is. -/
def Setting.isIdentity : Setting → Bool
  | identity .. => true
  | _ => false

theorem Setting.isIdentity_of_resolve {env : Environment} {x y : Setting} (resolved : x.resolve env = .ok y) :
    y.isIdentity = x.isIdentity := by
  cases x with
  | credentials k =>
    cases fetched : k.resolve env with
    | error e => simp [resolve, fetched, Except.map] at resolved
    | ok k' =>
      simp only [resolve, fetched, Except.map, Except.ok.injEq] at resolved
      subst resolved
      rfl
  | _ =>
    cases resolved
    rfl

/-- An engine with another identity. -/
def NetworkEngine.renamed (s : NetworkEngine) (identity : Identity) : NetworkEngine :=
  { s with settings := { s.settings with identity := some identity } }

namespace NetworkEngine

variable {fs disk : Files} {env : Environment} {c : Config} {s t : NetworkEngine} {x : Setting} {xs : List Setting}
  {i : Identity}

/-- The identity of an engine is in no other option's way. -/
theorem set_renamed (other : x.isIdentity = false) :
    set disk (s.renamed i) x = ((set disk s x).1, (set disk s x).2.renamed i) := by
  cases x with
  | identity => cases other
  | reconnect | credentials | publish | psk => rfl
  | will w =>
    simp only [set, NetworkSettings.set, renamed]
    split_ifs <;> rfl
  | tls options =>
    by_cases special : NetworkSettings.isSpecial options <;> by_cases plain : s.settings.security = .plain <;>
      simp [set, NetworkSettings.set, renamed, special, plain]
  | tlsBundle server client =>
    simp only [set, NetworkSettings.set, renamed]
    cases Security.Bundle.load disk server client <;> rfl

theorem applyAll_renamed (others : ∀ x ∈ xs, x.isIdentity = false)
    (accepted : Setting.applyAll (set disk) env xs s = (.ok (), t)) :
    Setting.applyAll (set disk) env xs (s.renamed i) = (.ok (), t.renamed i) := by
  induction xs generalizing s with
  | nil =>
    cases accepted
    rfl
  | cons x xs ih =>
    obtain ⟨y, u, resolved, taken, rest⟩ := Setting.applyAll_cons_eq_ok_iff.mp accepted
    obtain ⟨other, others⟩ := List.forall_mem_cons.mp others
    have same : set disk (s.renamed i) y = (.success, u.renamed i) := by
      rw [set_renamed ((Setting.isIdentity_of_resolve resolved).trans other), taken]
    exact Setting.applyAll_cons_eq_ok_iff.mpr ⟨y, u.renamed i, resolved, same, ih others rest⟩

/-- Where the broker decides about identifiers, a configuration that an engine accepts would be accepted with every
other identifier without a NUL as well, however long it is. -/
theorem stage_renamed {clientId name : String} (left : c.clientIdPolicy = .brokerDefined)
    (staged : c.stage (set disk) fs env name .fresh = (.ok (), s)) (named : clientId ≠ "")
    (clean : '\x00' ∉ clientId.toList) :
    ({ c with clientId } : Config).stage (set disk) fs env clientId .fresh =
      (.ok (), s.renamed ⟨clientId, c.cleanSession⟩) := by
  obtain ⟨usable, accepted⟩ := Config.stage_eq_ok_iff.mp staged
  refine Config.stage_eq_ok_iff.mpr ⟨usable.renamed left named clean, ?_⟩
  -- The identity is the first option, and the others are the same.
  have first (clientId : String) : ({ c with clientId } : Config).settings clientId =
      .identity clientId c.cleanSession c.version :: (c.settings name).tail := rfl
  have others : ∀ x ∈ (c.settings name).tail, x.isIdentity = false := by
    intro x among
    cases x with
    | identity => simp [Config.settings] at among
    | _ => rfl
  obtain ⟨x, u, resolved, taken, rest⟩ := Setting.applyAll_cons_eq_ok_iff.mp
    (show Setting.applyAll (set disk) env (.identity name c.cleanSession c.version :: (c.settings name).tail) .fresh =
      (.ok (), s) from accepted)
  cases resolved
  rw [first]
  refine Setting.applyAll_cons_eq_ok_iff.mpr ⟨_, u.renamed ⟨clientId, c.cleanSession⟩, rfl, ?_,
    applyAll_renamed others rest⟩
  cases version : c.version <;> rw [version] at taken <;> cases taken
  rfl

end NetworkEngine

/-! ## Accepted configurations -/

/-- The fields of a configuration that an engine has accepted. The topic of a will fits two bytes of length, and so does
an identifier that is limited or made up. A configured identifier that is left to the broker may be of any length. And
a connection is opened with whatever was configured, as it is: with the identifier, the will, the login with its
password and no other fields. They are read back from the wire exactly if all of them fit. -/
theorem connectFields_of_stage {fs disk : Files} {env : Environment} {c : Config} {digits : String}
    {s : NetworkEngine} (drawn : Config.MadeUp digits)
    (staged : c.stage (NetworkEngine.set disk) fs env (c.effectiveClientId digits) .fresh = (.ok (), s)) :
    (∀ w, c.will = some w → w.topic.toByteArray.size ≤ Field.maxBytes) ∧
    (c.clientIdPolicy = .strict ∨ c.clientId = "" →
      (c.effectiveClientId digits).toByteArray.size ≤ Field.maxBytes) ∧
    (c.clientIdPolicy = .brokerDefined → ∀ clientId, clientId ≠ "" → '\x00' ∉ clientId.toList →
      ∃ u, ({ c with clientId } : Config).stage (NetworkEngine.set disk) fs env clientId .fresh = (.ok (), u)) ∧
    ∀ endpoint d, s.settings.dial endpoint = .ok d →
      let fields := c.connectFields env (c.effectiveClientId digits)
      d.clientId = c.effectiveClientId digits ∧
      d.will = c.will ∧
      d.login = c.credentials.map (fun k => (k.username, k.secret env)) ∧
      d.fields = fields ∧
      (Field.readAll fields.length (d.fields.flatMap Field.written) = some (fields, []) ↔
        ∀ field ∈ fields, field.size ≤ Field.maxBytes) := by
  have usable := (Config.stage_eq_ok_iff.mp staged).1
  refine ⟨fun w willed => usable.size_topic_le willed, fun limited => ?_, fun left clientId named clean => ?_, ?_⟩
  · have short := Config.length_effectiveClientId_le usable drawn limited
    have := Config.utf8ByteSize_le (c.effectiveClientId digits)
    rw [String.size_toByteArray, Field.maxBytes]
    omega
  · exact ⟨_, NetworkEngine.stage_renamed left staged named clean⟩
  · intro endpoint d dialled fields
    -- Staging has put the configuration into the settings, and a connection takes them from there.
    have handed : d.clientId = c.effectiveClientId digits ∧ d.will = c.will ∧
        d.login = c.credentials.map (fun k => (k.username, k.secret env)) := by
      obtain ⟨-, -, -, security, kept, -⟩ := settings_of_stage staged
      rw [kept] at dialled
      obtain ⟨i, identity, rfl⟩ := NetworkSettings.eq_of_dial dialled
      obtain rfl := Option.some.inj identity
      exact ⟨rfl, rfl, rfl⟩
    obtain ⟨named, willed, login⟩ := handed
    have same : d.fields = fields := Config.connectFields_eq named willed login
    refine ⟨named, willed, login, same, ?_⟩
    rw [same, ← List.append_nil (fields.flatMap _)]
    exact Field.readAll_written_iff fields []

/-- A short identifier, a will whose payload is no text, and a password from the environment are read back. -/
theorem connectFields_of_stage_strict :
    ∃ (c : Config) (digits : String) (s : NetworkEngine) (d : Dial), Config.MadeUp digits ∧
      c.stage (NetworkEngine.set .empty) .empty [("SECRET", "word")] (c.effectiveClientId digits) .fresh =
        (.ok (), s) ∧
      s.settings.dial ⟨"localhost", 1883, 60⟩ = .ok d ∧ c.clientIdPolicy = .strict ∧
      (c.effectiveClientId digits).toByteArray.size ≤ Field.maxBytes ∧
      Field.readAll 5 (d.fields.flatMap Field.written) =
        some (["sensor".toByteArray, "gone".toByteArray, ⟨#[0, 255]⟩, "user".toByteArray, "word".toByteArray], []) := by
  have drawn : Config.MadeUp "0123456789abcdef0123456789abcdef" := by decide
  obtain ⟨s, staged, d, dialled⟩ : ∃ s, ({ Config.ofEndpoint "sensor" "localhost" 1883 60 with
      clientIdPolicy := .strict
      will := some ⟨"gone", ⟨#[0, 255]⟩, .atMostOnce, false⟩
      credentials := some ⟨"user", none, some "SECRET"⟩ } : Config).stage (NetworkEngine.set .empty) .empty
        [("SECRET", "word")] "sensor" .fresh = (.ok (), s) ∧ ∃ d, s.settings.dial ⟨"localhost", 1883, 60⟩ = .ok d :=
    ⟨_, rfl, _, rfl⟩
  obtain ⟨-, limited, -, wire⟩ := connectFields_of_stage drawn staged
  exact ⟨_, _, s, d, drawn, staged, dialled, rfl, limited (.inl rfl), (wire _ d dialled).2.2.2.2.mpr (by decide)⟩

section Long

variable {long : String} {payload : ByteArray}

/-- Nobody looks at the length of an identifier that is left to the broker, nor at that of a login. -/
theorem exists_stage_of_text (named : long ≠ "") (clean : '\x00' ∉ long.toList)
    (small : 1 + payload.size ≤ maxPacketSize) :
    ∃ s, ({ Config.ofEndpoint long "localhost" 1883 60 with
      will := some ⟨"t", payload, .atMostOnce, false⟩
      credentials := some ⟨long, some long, none⟩ } : Config).stage (NetworkEngine.set .empty) .empty [] long .fresh =
        (.ok (), s) := by
  have solid : Blank.isBlank 'l' = false := by decide
  have topic : Topic.nameFault? "t" = none := by decide
  have size : "t".utf8ByteSize = 1 := by decide
  have limit : ¬ maxPacketSize < 1 + payload.size := Nat.not_lt.mpr small
  have login : (Config.Credentials.mk long (some long) none).resolve [] = .ok ⟨long, some long, none⟩ := rfl
  have version : (default : ProtocolVersion) = .v311 := rfl
  simp only [Config.stage_eq_ok_iff, exists_and_left]
  constructor
  · simp [Config.Usable, Config.fault?, Config.rules, Config.ofEndpoint, Config.objectIf, Config.errorIf, solid, topic,
      named, clean, ClientId.fault?, ClientId.fault?.nulFault?, ClientIdPolicy.limit?, RetryPolicy.fault?, default]
  · simp [Config.settings, Config.ofEndpoint, Setting.applyAll, Setting.resolve, login, NetworkEngine.set,
      NetworkSettings.set, size, limit, Except.map, version]

/-- A text of one letter, again and again, has a byte for each of them. -/
theorem utf8ByteSize_replicate (n : Nat) : (String.ofList (List.replicate n 'x')).utf8ByteSize = n := by
  have letter : (String.singleton 'x').utf8ByteSize = 1 := by decide
  induction n with
  | zero => rfl
  | succ n ih => rw [List.replicate_succ, String.ofList_cons, String.utf8ByteSize_append, ih, letter, Nat.add_comm]

end Long

/-- A configuration is usable and accepted, and four of its five fields are one byte longer than their lengths can
say. -/
theorem connectFields_too_long :
    let long := String.ofList (List.replicate 65536 'x')
    let payload : ByteArray := ⟨Array.replicate 65536 0⟩
    let c : Config := { Config.ofEndpoint long "localhost" 1883 60 with
      will := some ⟨"t", payload, .atMostOnce, false⟩
      credentials := some ⟨long, some long, none⟩ }
    ∃ digits s, c.Usable .empty ∧ Config.MadeUp digits ∧
      c.stage (NetworkEngine.set .empty) .empty [] (c.effectiveClientId digits) .fresh = (.ok (), s) ∧
      (c.connectFields [] (c.effectiveClientId digits)).map ByteArray.size = [65536, 1, 65536, 65536, 65536] := by
  intro long payload c
  have length : long.utf8ByteSize = 65536 := utf8ByteSize_replicate 65536
  have clean : '\x00' ∉ long.toList := by
    rw [String.toList_ofList]
    intro among
    exact absurd (List.eq_of_mem_replicate among) (by decide)
  have filled : payload.size = 65536 := Array.size_replicate
  -- Nothing more is asked of the two, and they are better not looked into.
  clear_value long payload
  have named : long ≠ "" := by
    rintro rfl
    cases length
  have small : 1 + payload.size ≤ maxPacketSize := by
    rw [filled]
    decide
  have configured : c.effectiveClientId "0123456789abcdef0123456789abcdef" = long :=
    Config.effectiveClientId_of_ne named _
  obtain ⟨s, staged⟩ := exists_stage_of_text named clean small
  refine ⟨"0123456789abcdef0123456789abcdef", s, (Config.stage_eq_ok_iff.mp staged).1, by decide, ?_, ?_⟩
  · rw [configured]
    exact staged
  · have sizes : (c.connectFields [] long).map ByteArray.size =
        [long.utf8ByteSize, "t".utf8ByteSize, payload.size, long.utf8ByteSize, long.utf8ByteSize] := rfl
    rw [configured, sizes, length, filled]
    rfl

end BrokerSession
