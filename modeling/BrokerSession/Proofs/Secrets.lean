import BrokerSession.Config.Check
import BrokerSession.Program.Configuration
import BrokerSession.Proofs.Toml

/-!
# Secrets in a configuration that is printed

Three fields of a configuration are secret: the password, the key that both ends hold, and the passphrase of the key of
the client's certificate. When a configuration is printed the first two are covered by a mask, so nothing can be learned
about them. The passphrase is printed as it is.

## Main definitions

* `Config.passphrase?` - the passphrase of the client's key
* `Config.covered` - a configuration with a mask over all its secrets

## Main results

* `check_eq_iff` - two configurations that differ in secrets only are printed alike exactly if their passphrases are the
  same
* `passphrase_printed` - two usable configurations that differ in the passphrase and are not printed alike
-/

namespace BrokerSession

namespace Config

/-- The passphrase of the key of the client's certificate. -/
def passphrase? (c : Config) : Option String := c.clientCert.bind ClientCert.keyPassphrase

/-- A configuration with a mask over every secret in it. Two configurations are the same then exactly if they differ at
most in the values of secrets that both of them have. -/
def covered (c : Config) : Config :=
  { c.masked with
    clientCert := c.clientCert.map fun k => { k with keyPassphrase := k.keyPassphrase.map fun _ => secretMask } }

variable {c d : Config}

theorem clientId_of_covered (same : c.covered = d.covered) : c.clientId = d.clientId :=
  (congrArg clientId same :)

/-- Two configurations that differ in secrets only are the same under the mask, or differ there in their passphrases and
in nothing else. -/
theorem masked_of_covered (same : c.covered = d.covered) :
    (c.masked = d.masked ∧ c.passphrase? = d.passphrase?) ∨
      ∃ (k : ClientCert) (word word' : String), c.passphrase? = some word ∧ d.passphrase? = some word' ∧
        c.masked = { c.covered with clientCert := some { k with keyPassphrase := some word } } ∧
        d.masked = { c.covered with clientCert := some { k with keyPassphrase := some word' } } := by
  -- The mask leaves the certificate of the client as it is, so only its passphrase can show.
  have shown (c : Config) : c.masked = { c.covered with clientCert := c.clientCert } := rfl
  have certs : c.covered.clientCert = d.covered.clientCert := congrArg Config.clientCert same
  rw [shown c, shown d, ← same]
  cases client : c.clientCert with
  | none =>
    cases other : d.clientCert with
    | none => exact .inl ⟨rfl, by simp [passphrase?, client, other]⟩
    | some l => simp [covered, client, other] at certs
  | some k =>
    cases other : d.clientCert with
    | none => simp [covered, client, other] at certs
    | some l =>
      obtain ⟨certFile, keyFile, locked⟩ := k
      obtain ⟨certFile', keyFile', locked'⟩ := l
      simp only [covered, client, other, Option.map_some, Option.some.injEq, ClientCert.mk.injEq] at certs
      obtain ⟨rfl, rfl, alike⟩ := certs
      cases locked with
      | none =>
        cases locked' with
        | none => exact .inl ⟨rfl, by simp [passphrase?, client, other]⟩
        | some word' => cases alike
      | some word =>
        cases locked' with
        | none => cases alike
        | some word' =>
          exact .inr ⟨⟨certFile, keyFile, none⟩, word, word', by simp [passphrase?, client],
            by simp [passphrase?, other], rfl, rfl⟩

end Config

namespace Program

variable {c d : Config}

/-- The document that describes a configuration. -/
def document (c : Config) : String :=
  Toml.render (match c.encode .leftOut with
    | .table fields => fields
    | _ => [])

theorem configLines_eq (c : Config) :
    configLines c = "Effective configuration:" :: splitLines (document c.masked) ++
      if c.clientId.isEmpty then ["client_id is generated for each session"] else [] := rfl

/-- A text can be put together from its lines. -/
theorem splitLines_injective {s t : String} (same : splitLines s = splitLines t) : s = t := by
  have lines : s.toList.splitOn '\n' = t.toList.splitOn '\n' := by
    have toList := congrArg (List.map String.toList) same
    simpa [splitLines, Function.comp_def] using toList
  have joined := congrArg (List.intercalate ['\n']) lines
  rw [List.intercalate_splitOn, List.intercalate_splitOn] at joined
  exact String.toList_injective joined

/-- The passphrase stands in the document as it is written, between what does not depend on it. -/
theorem document_of_passphrase (c : Config) (k : Config.ClientCert) :
    ∃ before behind : String, ∀ word : String,
      document { c with clientCert := some { k with keyPassphrase := some word } } =
        before ++ Toml.renderText word ++ behind := by
  obtain ⟨before, behind, written⟩ := Toml.render_of_nested
    (Encode.field "client_id" (.text c.clientId) ++
      Encode.field "host" (.text c.host) ++
      Encode.field "port" (.int c.port.toNat) ++
      Encode.field "keep_alive_secs" (.int c.keepAliveSecs.toNat) ++
      Encode.field "clean_session" (.bool c.cleanSession) ++
      Encode.field "protocol_version" (Encode.word Config.Decode.versionWords c.version) ++
      Encode.field "client_id_policy" (Encode.word Config.Decode.clientIdPolicyWords c.clientIdPolicy) ++
      Encode.field "reconnect" (Config.Encode.retry c.retry) ++
      Encode.optional .leftOut "will" Config.Encode.will c.will ++
      Encode.optional .leftOut "credentials" (Config.Encode.credentials .leftOut) c.credentials ++
      Encode.optional .leftOut "publish" Config.Encode.publish c.publish ++
      Encode.optional .leftOut "server_cert" (Config.Encode.serverCert .leftOut) c.serverCert)
    (Encode.optional .leftOut "tls" (Config.Encode.tls .leftOut) c.tls ++
      Encode.optional .leftOut "psk" (Config.Encode.psk .leftOut) c.psk)
    (Encode.field "cert_file" (.text k.certFile) ++ Encode.field "key_file" (.text k.keyFile))
    "client_cert" "key_passphrase" (by simp [Encode.field, Toml.renderPlain])
  refine ⟨before, behind, fun word => ?_⟩
  rw [← written word]
  simp only [document, Config.encode, Config.Encode.clientCert, Encode.field, Encode.optional, List.append_assoc,
    List.cons_append, List.nil_append]

/-- What is printed of two configurations under one name is alike exactly if the documents are. -/
theorem check_eq_iff_document (named : c.clientId = d.clientId) :
    check c true = check d true ↔ document c.masked = document d.masked := by
  constructor
  · intro alike
    have lines : configLines c = configLines d :=
      (List.map_inj_right fun _ _ => Utterance.printed.inj).mp (List.append_cancel_right alike)
    rw [configLines_eq, configLines_eq, named] at lines
    exact splitLines_injective (List.cons.inj (List.append_cancel_right lines)).2
  · intro alike
    rw [check, check, configLines_eq, configLines_eq, named, alike]

/-- The documents of two configurations that differ in secrets only tell the passphrases apart, and nothing else. -/
theorem document_masked_eq_iff (same : c.covered = d.covered) :
    document c.masked = document d.masked ↔ c.passphrase? = d.passphrase? := by
  rcases c.masked_of_covered same with ⟨masked, alike⟩ | ⟨k, word, word', locked, locked', masked, masked'⟩
  · simp only [masked, alike]
  · obtain ⟨before, behind, written⟩ := document_of_passphrase c.covered k
    rw [masked, masked', locked, locked', written, written, Option.some.injEq]
    constructor
    · intro alike
      -- The text is the same before and behind, and what is between reads back.
      refine Toml.renderText_injective (String.toList_injective ?_)
      simpa using congrArg String.toList alike
    · rintro rfl
      rfl

/-- Two configurations that differ in secrets only are printed alike exactly if their passphrases are the same. -/
theorem check_eq_iff (same : c.covered = d.covered) :
    check c true = check d true ↔ c.passphrase? = d.passphrase? :=
  (check_eq_iff_document (Config.clientId_of_covered same)).trans (document_masked_eq_iff same)

/-- A configuration that vouches for itself with a certificate, a locked key and a password. -/
def lockedConfig (passphrase password : String) : Config :=
  { Config.ofEndpoint "meter" "broker" 8883 60 with
    credentials := some ⟨"user", some password, none⟩
    serverCert := some ⟨some "ca.pem", none⟩
    clientCert := some ⟨"client.pem", "client.key", some passphrase⟩ }

/-- The files that such a configuration names. -/
def lockedFiles : Files :=
  ((Files.empty.addFile "ca.pem" ⟨#[67]⟩).addFile "client.pem" ⟨#[67]⟩).addFile "client.key" ⟨#[75]⟩

/-- Another password makes no difference to what is printed. -/
theorem check_lockedConfig_password :
    (lockedConfig "open" "one").covered = (lockedConfig "open" "two").covered ∧
      check (lockedConfig "open" "one") true = check (lockedConfig "open" "two") true :=
  ⟨rfl, (check_eq_iff rfl).mpr rfl⟩

/-- Two usable configurations that differ in the passphrase only are not printed alike. -/
theorem passphrase_printed :
    (lockedConfig "open" "one").Usable lockedFiles ∧ (lockedConfig "shut" "one").Usable lockedFiles ∧
      (lockedConfig "open" "one").covered = (lockedConfig "shut" "one").covered ∧
      check (lockedConfig "open" "one") true ≠ check (lockedConfig "shut" "one") true := by
  have named : (lockedConfig "open" "one").clientId = (lockedConfig "shut" "one").clientId := rfl
  have same : (lockedConfig "open" "one").covered = (lockedConfig "shut" "one").covered := rfl
  refine ⟨by decide, by decide, same, ?_⟩
  rw [Ne, check_eq_iff_document named, document_masked_eq_iff same]
  decide

end Program

end BrokerSession
