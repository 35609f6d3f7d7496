import BrokerSession.Config.Check
import BrokerSession.Proofs.Topic

/-!
# Which configurations are usable

A configuration is usable if it meets a list of requirements: those on the broker and on the client, and those that each
block brings along which is not left out. The check goes through them in their order, so what is wrong with a
configuration that breaks more than one of them is told by the first.

## Main definitions

* `RetryPolicy.requirements`, `Config.ServerCert.requirements`, `Config.ClientCert.requirements`,
  `Config.Psk.requirements` - what is asked of a part of a configuration
* `Config.requirements` - what is asked of all of it
* `Config.Sound` - what a configuration is like for which all of it holds

## Main results

* `Config.map_rules` - every rule of the check finds the first fault among the requirements that it is about
* `Config.usable_iff_sound` - what a usable configuration is like
* `Config.validate_of_requirements` - which configurations pass, and why the others are turned down
-/

namespace BrokerSession

open Requirement (firstFault? FirstFault)

/-- What is asked of a retry policy. -/
def RetryPolicy.requirements : RetryPolicy → List (Requirement Fault)
  | disabled => []
  | backoff initial ceiling _ =>
    [⟨1 ≤ initial.toNat, .zeroInitialDelay⟩,
     ⟨initial.toNat ≤ ceiling.toNat, .ceilingBelowInitial ceiling initial⟩]

theorem RetryPolicy.requirements_hold_iff (policy : RetryPolicy) :
    (∀ r ∈ policy.requirements, r.holds) ↔ ∀ initial ceiling quadratic, policy = .backoff initial ceiling quadratic →
      1 ≤ initial.toNat ∧ initial.toNat ≤ ceiling.toNat := by
  cases policy <;> simp [requirements]

theorem RetryPolicy.fault?_eq (policy : RetryPolicy) : policy.fault? = firstFault? policy.requirements := by
  cases policy with
  | disabled => rfl
  | backoff initial ceiling quadratic =>
    have positive : 1 ≤ initial.toNat ↔ ¬ initial = 0 := by
      rw [Nat.one_le_iff_ne_zero, ← UInt32.toNat_inj]
      rfl
    have ordered : initial.toNat ≤ ceiling.toNat ↔ ¬ ceiling < initial := by
      rw [UInt32.not_lt, UInt32.le_iff_toNat_le]
    simp only [fault?, requirements, Requirement.firstFault?_cons, Requirement.firstFault?_nil, positive, ordered,
      ite_not]

namespace Config

variable {fs : Files} {c : Config}

/-! ## Texts -/

/-- A text with something in it that is not blank. -/
def SaysSomething (text : String) : Prop := ∃ ch ∈ text.toList, Blank.isBlank ch = false

/-- The text is searched, not the alphabet. -/
instance (text : String) : Decidable (SaysSomething text) :=
  List.decidableBEx (fun ch => Blank.isBlank ch = false) text.toList

/-- A digit of a hexadecimal number, of either case. -/
def IsHexDigit (c : Char) : Prop := ('0' ≤ c ∧ c ≤ '9') ∨ ('a' ≤ c ∧ c ≤ 'f') ∨ ('A' ≤ c ∧ c ≤ 'F')

instance (c : Char) : Decidable (IsHexDigit c) := inferInstanceAs (Decidable (_ ∨ _))

/-- A text of hexadecimal digits, at least one of them. -/
def IsHex (text : String) : Prop := text ≠ "" ∧ ∀ digit ∈ text.toList, IsHexDigit digit

instance (text : String) : Decidable (IsHex text) :=
  have : Decidable (∀ digit ∈ text.toList, IsHexDigit digit) := List.decidableBAll IsHexDigit text.toList
  inferInstanceAs (Decidable (_ ∧ _))

theorem isDigit_iff (c : Char) : Hex.isDigit c = true ↔ IsHexDigit c := by
  unfold Hex.isDigit Hex.value? IsHexDigit
  by_cases decimal : '0' ≤ c ∧ c ≤ '9'
  · simp [decimal]
  · by_cases lower : 'a' ≤ c ∧ c ≤ 'f' <;> simp [decimal, lower]

/-! ## Blocks -/

/-- A path leads somewhere. -/
def found (fs : Files) (path : String) : Requirement ConfigError := ⟨fs.holds path = true, .certificateNotFound path⟩

/-- What is asked of the certificates that vouch for the broker. -/
def ServerCert.requirements (fs : Files) (cert : ServerCert) : List (Requirement ConfigError) :=
  ⟨cert.caFile ≠ none ∨ cert.caPath ≠ none, .invalid .noTrustSource⟩ ::
    (cert.caFile.toList ++ cert.caPath.toList).map (found fs)

/-- What is asked of the certificate of the client, next to the certificates that vouch for the broker. -/
def ClientCert.requirements (fs : Files) (server : Option ServerCert) (cert : ClientCert) :
    List (Requirement ConfigError) :=
  [⟨server ≠ none, .invalid .clientCertAlone⟩,
   ⟨cert.certFile ≠ "" ∧ cert.keyFile ≠ "", .invalid .clientCertIncomplete⟩,
   found fs cert.certFile,
   found fs cert.keyFile]

/-- What is asked of a key that both ends hold, next to the certificates. -/
def Psk.requirements (server : Option ServerCert) (client : Option ClientCert) (psk : Psk) :
    List (Requirement ConfigError) :=
  [⟨server = none ∧ client = none, .invalid .pskWithCertificates⟩,
   ⟨psk.identity ≠ "", .invalid .emptyPskIdentity⟩,
   ⟨IsHex psk.key, .invalid .pskKeyNotHex⟩]

theorem objectIf_orElse {b : Bool} {p : Prop} [Decidable p] {o : Objection} {rest : List (Requirement ConfigError)}
    (fine : b = false ↔ p) : (objectIf b o <|> firstFault? rest) = firstFault? (⟨p, .invalid o⟩ :: rest) := by
  simp only [objectIf, errorIf, Requirement.firstFault?_cons, ← fine]
  cases b <;> simp

theorem objectIf_eq {b : Bool} {p : Prop} [Decidable p] {o : Objection} (fine : b = false ↔ p) :
    objectIf b o = firstFault? [⟨p, .invalid o⟩] := by
  rw [← objectIf_orElse fine, Requirement.firstFault?_nil]
  cases b <;> rfl

theorem findSome?_missing? (fs : Files) (paths : List String) :
    paths.findSome? (missing? fs) = firstFault? (paths.map (found fs)) := by
  rw [firstFault?, List.findSome?_map]
  congr 1
  funext path
  by_cases there : fs.holds path = true <;> simp [missing?, errorIf, found, Requirement.fault?, there]

theorem ServerCert.fault?_eq (cert : ServerCert) : cert.fault? fs = firstFault? (cert.requirements fs) := by
  have sourced : (cert.caFile.isNone && cert.caPath.isNone) = false ↔ cert.caFile ≠ none ∨ cert.caPath ≠ none := by
    cases cert.caFile <;> cases cert.caPath <;> simp
  rw [fault?, findSome?_missing?]
  exact objectIf_orElse sourced

theorem ClientCert.fault?_eq (server : Option ServerCert) (cert : ClientCert) :
    cert.fault? fs server.isSome = firstFault? (cert.requirements fs server) := by
  have vouched : (!server.isSome) = false ↔ server ≠ none := by
    cases server <;> simp
  have complete : (cert.certFile.isEmpty || cert.keyFile.isEmpty) = false ↔ cert.certFile ≠ "" ∧ cert.keyFile ≠ "" := by
    simp
  rw [fault?, findSome?_missing?, objectIf_orElse complete]
  exact objectIf_orElse vouched

theorem Psk.fault?_eq (server : Option ServerCert) (client : Option ClientCert) (psk : Psk) :
    psk.fault? (server.isSome || client.isSome) = firstFault? (psk.requirements server client) := by
  have alone : (server.isSome || client.isSome) = false ↔ server = none ∧ client = none := by
    cases server <;> cases client <;> simp
  have named : psk.identity.isEmpty = false ↔ psk.identity ≠ "" := by
    simp
  have hex : (psk.key.isEmpty || !psk.key.toList.all Hex.isDigit) = false ↔ IsHex psk.key := by
    simp [IsHex, isDigit_iff]
  rw [fault?, objectIf_eq hex, objectIf_orElse named]
  exact objectIf_orElse alone

/-! ## The whole of a configuration -/

/-- What is asked of a configuration, for each of the rules by which it is checked. -/
def requirementsByRule (fs : Files) (c : Config) : List (List (Requirement ConfigError)) :=
  [[⟨SaysSomething c.host, .invalid .emptyHost⟩],
   [⟨c.port ≠ 0, .invalid .zeroPort⟩],
   [⟨c.clientIdPolicy = .strict → c.clientId.length ≤ 23, .invalidClientId (.clientIdTooLong c.clientId.length 23)⟩,
    ⟨'\x00' ∉ c.clientId.toList, .invalidClientId .nulCharacter⟩],
   [⟨c.clientId = "" → c.cleanSession = true, .invalid .anonymousDurable⟩],
   c.retry.requirements.map (.map fun fault => .invalid (.retry fault)),
   c.will.elim [] fun w => (Topic.nameRequirements w.topic).map (.map .invalidTopic),
   c.credentials.elim [] fun k => [⟨k.username ≠ "", .invalid .emptyUsername⟩],
   c.publish.elim [] fun p => [⟨p.maxInflight.toNat ≤ 65535, .invalid (.inflightTooLarge p.maxInflight)⟩],
   c.serverCert.elim [] (ServerCert.requirements fs),
   c.clientCert.elim [] (ClientCert.requirements fs c.serverCert),
   c.psk.elim [] (Psk.requirements c.serverCert c.clientCert)]

/-- What is asked of a configuration, in the order in which it is checked. -/
def requirements (fs : Files) (c : Config) : List (Requirement ConfigError) := (requirementsByRule fs c).flatten

theorem clientIdFault?_eq (policy : ClientIdPolicy) (clientId : String) :
    ClientId.fault? policy.limit? clientId =
      firstFault? [⟨policy = .strict → clientId.length ≤ 23, .clientIdTooLong clientId.length 23⟩,
        ⟨'\x00' ∉ clientId.toList, .nulCharacter⟩] := by
  simp only [Requirement.firstFault?_cons, Requirement.firstFault?_nil]
  cases policy with
  | strict =>
    by_cases long : 23 < clientId.length
    · simp [ClientId.fault?, ClientIdPolicy.limit?, ClientId.strictLimit, long]
    · simp [ClientId.fault?, ClientId.fault?.nulFault?, ClientIdPolicy.limit?, ClientId.strictLimit, long]
  | brokerDefined => simp [ClientId.fault?, ClientId.fault?.nulFault?, ClientIdPolicy.limit?]

/-- Every rule of the check finds the first fault among the requirements that it is about. -/
theorem map_rules (fs : Files) (c : Config) :
    (rules fs).map (· c) = (requirementsByRule fs c).map firstFault? := by
  simp only [rules, requirementsByRule, List.map_cons, List.map_nil, List.cons.injEq, and_true]
  -- One rule after the other, each with what it asks for.
  refine ⟨?host, ?port, ?clientId, ?anonymous, ?retry, ?will, ?credentials, ?publish, ?serverCert, ?clientCert, ?psk⟩
  case host => exact objectIf_eq (by simp [SaysSomething])
  case port => exact objectIf_eq (by simp)
  case clientId =>
    rw [clientIdFault?_eq, ← Requirement.firstFault?_map]
    rfl
  case anonymous => exact objectIf_eq (by simp)
  case retry =>
    rw [Requirement.firstFault?_map, ← RetryPolicy.fault?_eq]
    rfl
  case will =>
    refine Requirement.firstFault?_elim _ fun w => ?_
    rw [Topic.nameFault?_eq, Requirement.firstFault?_map]
  case credentials => exact Requirement.firstFault?_elim _ fun k => objectIf_eq (by simp)
  case publish =>
    refine Requirement.firstFault?_elim _ fun p => objectIf_eq ?_
    rw [decide_eq_false_iff_not, UInt32.not_lt]
    rfl
  case serverCert => exact Requirement.firstFault?_elim _ ServerCert.fault?_eq
  case clientCert => exact Requirement.firstFault?_elim _ (ClientCert.fault?_eq c.serverCert)
  case psk => exact Requirement.firstFault?_elim _ (Psk.fault?_eq c.serverCert c.clientCert)

theorem fault?_eq (fs : Files) (c : Config) : c.fault? fs = firstFault? (c.requirements fs) :=
  (Requirement.firstFault?_flatten (map_rules fs c)).symm

/-! ## Usable configurations -/

/-- What a usable configuration is like. A block that is left out asks for nothing. -/
structure Sound (fs : Files) (c : Config) : Prop where
  host : SaysSomething c.host
  port : c.port ≠ 0
  clientId : (c.clientIdPolicy = .strict → c.clientId.length ≤ 23) ∧ '\x00' ∉ c.clientId.toList
  anonymous : c.clientId = "" → c.cleanSession = true
  retry : ∀ initial ceiling quadratic, c.retry = .backoff initial ceiling quadratic →
    1 ≤ initial.toNat ∧ initial.toNat ≤ ceiling.toNat
  will : ∀ w, c.will = some w → Topic.Name w.topic
  credentials : ∀ k, c.credentials = some k → k.username ≠ ""
  publish : ∀ p, c.publish = some p → p.maxInflight.toNat ≤ 65535
  serverCert : ∀ s, c.serverCert = some s →
    (s.caFile ≠ none ∨ s.caPath ≠ none) ∧ ∀ path ∈ s.caFile.toList ++ s.caPath.toList, fs.holds path = true
  clientCert : ∀ k, c.clientCert = some k →
    c.serverCert ≠ none ∧ (k.certFile ≠ "" ∧ k.keyFile ≠ "") ∧ fs.holds k.certFile = true ∧ fs.holds k.keyFile = true
  psk : ∀ k, c.psk = some k →
    (c.serverCert = none ∧ c.clientCert = none) ∧ k.identity ≠ "" ∧ IsHex k.key

theorem forall_mem_elim_iff {α β : Type} {o : Option α} {f : α → List β} {p : β → Prop} :
    (∀ b ∈ o.elim [] f, p b) ↔ ∀ a, o = some a → ∀ b ∈ f a, p b := by
  cases o <;> simp

/-- A configuration is usable if all that is asked of it, rule by rule, holds, and that is what its parts are like. -/
theorem usable_iff_sound : c.Usable fs ↔ c.Sound fs := by
  have byRule : c.Usable fs ↔ ∀ asked ∈ requirementsByRule fs c, ∀ r ∈ asked, r.holds := by
    rw [Usable, fault?_eq, Requirement.firstFault?_eq_none_iff, requirements, List.forall_mem_flatten]
  rw [byRule]
  simp only [requirementsByRule, ServerCert.requirements, ClientCert.requirements, Psk.requirements, found,
    Requirement.map, List.forall_mem_cons, List.forall_mem_map, List.not_mem_nil, false_implies, implies_true, and_true,
    forall_mem_elim_iff, RetryPolicy.requirements_hold_iff, ← Topic.name_iff_requirements]
  -- What is left says the same on both sides, without and with names for the parts.
  constructor
  · rintro ⟨host, port, clientId, anonymous, retry, will, credentials, publish, serverCert, clientCert, psk⟩
    exact ⟨host, port, clientId, anonymous, retry, will, credentials, publish, serverCert, clientCert, psk⟩
  · rintro ⟨host, port, clientId, anonymous, retry, will, credentials, publish, serverCert, clientCert, psk⟩
    exact ⟨host, port, clientId, anonymous, retry, will, credentials, publish, serverCert, clientCert, psk⟩

theorem validate_eq_error_iff {e : ConfigError} : c.validate fs = .error e ↔ c.fault? fs = some e := by
  unfold validate
  cases c.fault? fs <;> simp

/-- A configuration passes, unchanged, if it is sound in all its parts. Any other is turned down for the first thing
that is asked of it and does not hold. -/
theorem validate_of_requirements (fs : Files) (c : Config) :
    (∀ d, c.validate fs = .ok d ↔ c.Sound fs ∧ d = c) ∧
      ∀ e, c.validate fs = .error e ↔ FirstFault (c.requirements fs) e := by
  constructor
  · intro d
    rw [validate_eq_ok_iff, usable_iff_sound, eq_comm (a := c)]
  · intro e
    rw [validate_eq_error_iff, fault?_eq, Requirement.firstFault?_eq_some_iff]

/-- A host of blanks comes before a session that nobody could come back to. -/
example : ({ ofEndpoint "" " \t" 1883 60 with cleanSession := false } : Config).fault? .empty =
    some (.invalid .emptyHost) := by decide

end Config

end BrokerSession
