import BrokerSession.Network
import BrokerSession.Proofs.Staging
import BrokerSession.Proofs.Validation

/-!
# A connection is opened with what was configured

A configuration reaches a network engine option by option, and a connection is opened from what the engine kept. What
is opened is what was configured: a connection is secured exactly if some block of the configuration asks for it, and
in the way in which it asks. What the engine could only have ignored is refused while the options are given.

## Main definitions

* `Credentials.secret` - the password of credentials, fetched from the environment if need be

## Main results

* `settings_of_stage` - what an engine has kept of a configuration whose options it accepted
* `dial_of_stage` - a connection that is opened from it is no less secure than was asked for
-/

namespace BrokerSession

/-- The password of credentials: the one that is written down, or else the one in the environment, or else none. -/
def Config.Credentials.secret (env : Environment) (k : Config.Credentials) : String :=
  (k.password.or (k.passwordEnv.bind fun name => env.lookup name)).getD ""

theorem Config.Credentials.eq_of_resolve {env : Environment} {k k' : Config.Credentials}
    (h : k.resolve env = .ok k') : k'.username = k.username ∧ k'.password.getD "" = k.secret env := by
  obtain ⟨username, password, source⟩ := k
  cases password with
  | some word =>
    cases h
    exact ⟨rfl, rfl⟩
  | none =>
    cases source with
    | none =>
      cases h
      exact ⟨rfl, rfl⟩
    | some name =>
      simp only [resolve] at h
      cases value : env.lookup name with
      | none => simp [value] at h
      | some word =>
        rw [value] at h
        cases h
        exact ⟨rfl, by simp [secret, value]⟩

/-! ## What validation promises -/

namespace Config

variable {fs : Files} {c : Config}

theorem Usable.vouched (usable : c.Usable fs) {k : ClientCert} (client : c.clientCert = some k) :
    c.serverCert.isSome = true := by
  obtain ⟨vouched, -⟩ := (usable_iff_sound.mp usable).clientCert k client
  exact Option.isSome_iff_ne_none.mpr vouched

theorem Usable.inflight (usable : c.Usable fs) {p : PublishTuning} (publish : c.publish = some p) :
    p.maxInflight ≤ maxInflight :=
  UInt32.le_iff_toNat_le.mpr ((usable_iff_sound.mp usable).publish p publish)

end Config

/-- A limit that is small enough is the window itself, and no limit is the largest window. -/
theorem PacketIds.toNat_ofLimit {limit : UInt32} (small : limit ≤ maxInflight) :
    (ofLimit limit).toNat = if limit = 0 then 65535 else limit.toNat := by
  have below : ¬ maxWindow.toUInt32 < limit := UInt32.not_lt.mpr small
  by_cases zero : limit = 0
  · simp [ofLimit, zero, maxWindow]
  · have bound : limit.toNat ≤ 65535 := small
    rw [ofLimit, if_neg (not_or.mpr ⟨zero, below⟩), if_neg zero, UInt32.toNat_toUInt16]
    omega

/-! ## Certificates -/

theorem bind_eq_ok_iff {ε α β : Type} {x : Except ε α} {f : α → Except ε β} {b : β} :
    (x >>= f) = .ok b ↔ ∃ a, x = .ok a ∧ f a = .ok b := by
  cases x <;> simp [bind, Except.bind]

theorem bind_ne_error {ε α β : Type} {x : Except ε α} {f : α → Except ε β} {e : ε}
    (first : x ≠ .error e) (second : ∀ a, f a ≠ .error e) : (x >>= f) ≠ .error e := by
  cases x with
  | error e' => simpa [bind, Except.bind] using first
  | ok a => exact second a

theorem mapM_ne_error {ε α β : Type} {f : α → Except ε β} {e : ε} (each : ∀ a, f a ≠ .error e) (l : List α) :
    l.mapM f ≠ .error e := by
  induction l with
  | nil => simp [pure, Except.pure]
  | cons a l ih =>
    rw [List.mapM_cons]
    exact bind_ne_error (each a) fun b => bind_ne_error ih fun bs thrown => by cases thrown

namespace Security.Bundle

variable {fs : Files} {server : Config.ServerCert} {client : Option Config.ClientCert}

theorem contents_ne_success (path : String) : contents fs path ≠ .error .success := by
  unfold contents
  split <;> simp

theorem directoryContents_ne_success (path : String) :
    directoryContents fs path ≠ .error .success := by
  refine bind_ne_error ?_ fun entries thrown => by cases thrown
  have opened_ne (certificate : String × FileNode) : opened certificate ≠ .error .success := by
    unfold opened
    split <;> simp
  unfold directoryEntries
  split
  · simp
  · exact mapM_ne_error opened_ne _

theorem clientContents_ne_success (k : Config.ClientCert) :
    clientContents fs k ≠ .error .success := by
  unfold clientContents
  dsimp only
  split
  · exact fun thrown => by cases thrown
  · refine bind_ne_error (contents_ne_success _) fun cert => ?_
    exact bind_ne_error (contents_ne_success _) fun key thrown => by cases thrown

theorem load_ne_success : load fs server client ≠ .error .success := by
  have optional_ne {read : String → Except Status (List UInt8)}
      (h : ∀ path, read path ≠ .error .success) (path : Option String) :
      optional read path ≠ .error .success := by
    cases path with
    | none => simp [optional]
    | some path => exact h path
  refine bind_ne_error (optional_ne contents_ne_success _) fun file => ?_
  refine bind_ne_error (optional_ne directoryContents_ne_success _) fun directory => ?_
  dsimp only
  split
  · exact fun thrown => by cases thrown
  · cases client with
    | none => exact fun thrown => by cases thrown
    | some k => exact bind_ne_error (clientContents_ne_success k) fun _ thrown => by cases thrown

/-- What is loaded shows a certificate exactly if there is one to show, and its key is not encrypted. -/
theorem clientAuth_of_load {b : Bundle} (h : load fs server client = .ok b) :
    b.clientAuth.isSome = client.isSome ∧ ∀ k, client = some k → k.keyPassphrase = none := by
  obtain ⟨file, -, h⟩ := bind_eq_ok_iff.mp h
  obtain ⟨directory, -, h⟩ := bind_eq_ok_iff.mp h
  dsimp only at h
  split at h
  · cases h
  · cases client with
    | none =>
      cases h
      exact ⟨rfl, fun k hk => by cases hk⟩
    | some k =>
      obtain ⟨shown, read, h⟩ := bind_eq_ok_iff.mp h
      cases h
      refine ⟨rfl, fun k' hk => ?_⟩
      obtain rfl := Option.some.inj hk
      unfold clientContents at read
      dsimp only at read
      split at read
      · cases read
      · rename_i plain
        simpa using plain

end Security.Bundle

/-! ## Accepted options -/

namespace NetworkSettings

variable {fs : Files} {env : Environment} {s t : NetworkSettings}

open Setting (applyAll)

theorem of_identity {clientId : String} {cleanSession : Bool} {version : ProtocolVersion}
    {policy : RetryPolicy}
    (h : applyAll (set fs) env [.identity clientId cleanSession version, .reconnect policy] s =
      (.ok (), t)) :
    version = .v311 ∧ t = { s with identity := some ⟨clientId, cleanSession⟩, policy } := by
  cases version <;> cases h
  exact ⟨rfl, rfl⟩

theorem of_will {o : Option Config.Will}
    (h : applyAll (set fs) env (o.map Setting.will).toList s = (.ok (), t)) :
    t = { s with will := o.or s.will } := by
  cases o with
  | none => exact Setting.applyAll_none_eq_ok_iff.mp h
  | some w =>
    obtain ⟨x, resolved, taken⟩ := Setting.applyAll_some_eq_ok_iff.mp h
    cases resolved
    simp only [set] at taken
    split at taken
    · cases taken
    · split at taken <;> cases taken
      rfl

theorem of_credentials {o : Option Config.Credentials}
    (h : applyAll (set fs) env (o.map Setting.credentials).toList s = (.ok (), t)) :
    t = { s with login := (o.map fun k => (k.username, k.secret env)).or s.login } := by
  cases o with
  | none => exact Setting.applyAll_none_eq_ok_iff.mp h
  | some k =>
    obtain ⟨x, resolved, taken⟩ := Setting.applyAll_some_eq_ok_iff.mp h
    cases fetched : k.resolve env with
    | error e => simp [Setting.resolve, fetched, Except.map] at resolved
    | ok k' =>
      obtain ⟨username, secret⟩ := Config.Credentials.eq_of_resolve fetched
      simp only [Setting.resolve, fetched, Except.map, Except.ok.injEq] at resolved
      subst resolved
      cases taken
      rw [username, secret]
      rfl

theorem of_publish {o : Option Config.PublishTuning}
    (h : applyAll (set fs) env (o.map Setting.publish).toList s = (.ok (), t)) :
    t = { s with window := (o.map fun p => PacketIds.ofLimit p.maxInflight).or s.window } := by
  cases o with
  | none => exact Setting.applyAll_none_eq_ok_iff.mp h
  | some p =>
    obtain ⟨x, resolved, taken⟩ := Setting.applyAll_some_eq_ok_iff.mp h
    cases resolved
    cases taken
    rfl

theorem of_tlsBundle {o : Option Config.ServerCert} {client : Option Config.ClientCert}
    (h : applyAll (set fs) env (o.map fun server => Setting.tlsBundle server client).toList s =
      (.ok (), t)) :
    (o = none → t = s) ∧ ∀ server, o = some server →
      ∃ b, Security.Bundle.load fs server client = .ok b ∧ t = { s with security := .bundle b } := by
  cases o with
  | none => exact ⟨fun _ => Setting.applyAll_none_eq_ok_iff.mp h, fun server named => (by cases named)⟩
  | some server =>
    obtain ⟨x, resolved, taken⟩ := Setting.applyAll_some_eq_ok_iff.mp h
    cases resolved
    simp only [set] at taken
    refine ⟨fun none => (by cases none), fun server' named => ?_⟩
    cases named
    cases loaded : Security.Bundle.load fs server client with
    | ok b =>
      rw [loaded] at taken
      cases taken
      exact ⟨b, rfl, rfl⟩
    | error status =>
      -- What loading fails with is the status of the option, and it is never a success.
      rw [loaded] at taken
      obtain ⟨rfl, -⟩ := Prod.mk.inj taken
      exact absurd loaded Security.Bundle.load_ne_success

/-- Details of the transport security are accepted when they ask for nothing special, and they do not take the place
of certificates. -/
theorem of_tls {o : Option Config.TlsOptions}
    (h : applyAll (set fs) env (o.map Setting.tls).toList s = (.ok (), t)) :
    (∀ options, o = some options → options = default) ∧
      t = { s with
        security := if o.isSome ∧ s.security = .plain then .systemRoots else s.security } := by
  cases o with
  | none =>
    refine ⟨fun options named => (by cases named), ?_⟩
    simpa using Setting.applyAll_none_eq_ok_iff.mp h
  | some options =>
    obtain ⟨x, resolved, taken⟩ := Setting.applyAll_some_eq_ok_iff.mp h
    cases resolved
    obtain ⟨insecure, peerCheck, version, ciphers⟩ := options
    simp only [set] at taken
    split at taken
    · cases taken
    · rename_i ordinary
      refine ⟨fun options named => ?_, ?_⟩
      · cases named
        cases peerCheck <;> simp_all [isSpecial, default]
      · split at taken <;> cases taken <;> simp_all

theorem of_psk {o : Option Config.Psk}
    (h : applyAll (set fs) env (o.map Setting.psk).toList s = (.ok (), t)) : o = none ∧ t = s := by
  cases o with
  | none => exact ⟨rfl, Setting.applyAll_none_eq_ok_iff.mp h⟩
  | some p =>
    obtain ⟨x, resolved, taken⟩ := Setting.applyAll_some_eq_ok_iff.mp h
    cases resolved
    cases taken

end NetworkSettings

theorem NetworkEngine.applyAll_eq_ok {fs : Files} {env : Environment} {xs : List Setting}
    {s t : NetworkEngine} (h : Setting.applyAll (set fs) env xs s = (.ok (), t)) :
    Setting.applyAll (NetworkSettings.set fs) env xs s.settings = (.ok (), t.settings) := by
  induction xs generalizing s with
  | nil =>
    cases h
    rfl
  | cons x xs ih =>
    obtain ⟨y, u, resolved, taken, rest⟩ := Setting.applyAll_cons_eq_ok_iff.mp h
    refine Setting.applyAll_cons_eq_ok_iff.mpr ⟨y, u.settings, resolved, ?_, ih rest⟩
    unfold set at taken
    cases accepted : s.settings.set fs y
    rw [accepted] at taken
    cases taken
    rfl

/-- What an engine has kept of a configuration whose options it accepted. -/
theorem settings_of_stage {fs disk : Files} {env : Environment} {c : Config} {clientId : String}
    {s : NetworkEngine}
    (staged : c.stage (NetworkEngine.set disk) fs env clientId .fresh = (.ok (), s)) :
    c.version = .v311 ∧ c.psk = none ∧ (∀ options, c.tls = some options → options = default) ∧
      ∃ security, s.settings = {
          identity := some ⟨clientId, c.cleanSession⟩
          policy := c.retry
          will := c.will
          login := c.credentials.map fun k => (k.username, k.secret env)
          window := c.publish.map fun p => PacketIds.ofLimit p.maxInflight
          security } ∧
        (c.serverCert = none → security = if c.tls.isSome then .systemRoots else .plain) ∧
        ∀ server, c.serverCert = some server →
          ∃ b, Security.Bundle.load disk server c.clientCert = .ok b ∧ security = .bundle b := by
  have given := NetworkEngine.applyAll_eq_ok (Config.stage_eq_ok_iff.mp staged).2
  simp only [Config.settings, Setting.applyAll_append_eq_ok_iff] at given
  -- One state of the settings after each group of options, in the order in which they are given.
  obtain ⟨_, ⟨_, ⟨u, ⟨_, ⟨_, ⟨_, identity, will⟩, login⟩, publish⟩, bundle⟩, tls⟩, psk⟩ := given
  obtain ⟨version, rfl⟩ := NetworkSettings.of_identity identity
  obtain rfl := NetworkSettings.of_will will
  obtain rfl := NetworkSettings.of_credentials login
  obtain rfl := NetworkSettings.of_publish publish
  obtain ⟨unvouched, vouched⟩ := NetworkSettings.of_tlsBundle bundle
  obtain ⟨ordinary, rfl⟩ := NetworkSettings.of_tls tls
  obtain ⟨unshared, settled⟩ := NetworkSettings.of_psk psk
  cases certified : c.serverCert with
  | none =>
    obtain rfl := unvouched certified
    refine ⟨version, unshared, ordinary, if c.tls.isSome then .systemRoots else .plain,
      settled.trans ?_, fun _ => rfl, fun server named => ?_⟩
    · simp [NetworkEngine.fresh, NetworkSettings.start]
    · cases named
  | some server =>
    obtain ⟨b, loaded, rfl⟩ := vouched server certified
    refine ⟨version, unshared, ordinary, .bundle b, settled.trans ?_, fun none => ?_,
      fun server' named => ?_⟩
    · simp [NetworkEngine.fresh, NetworkSettings.start]
    · cases none
    · obtain rfl := Option.some.inj named
      exact ⟨b, loaded, rfl⟩

/-- A connection that is opened after a configuration was accepted is what the configuration asks for. It is in the
clear only if no block asks for transport security. With certificates named it is secured by what was loaded from them,
and shows a certificate exactly if there is one to show; with nothing but details of the transport security it is
secured by the certificates of the system. Nothing was accepted that the engine could not do. -/
theorem dial_of_stage {fs disk : Files} {env : Environment} {c : Config} {clientId : String}
    {s : NetworkEngine}
    (staged : c.stage (NetworkEngine.set disk) fs env clientId .fresh = (.ok (), s)) :
    (c.version = .v311 ∧ c.psk = none ∧ (∀ k, c.clientCert = some k → k.keyPassphrase = none) ∧
      ∀ options, c.tls = some options → options.insecure = false ∧ options.peerCheck = .verifyPeer ∧
        options.version = none ∧ options.ciphers = none) ∧
      ∀ endpoint d, s.settings.dial endpoint = .ok d →
        (d.security = .plain ↔ c.usesTls = false) ∧
        (∀ server, c.serverCert = some server →
          ∃ b, Security.Bundle.load disk server c.clientCert = .ok b ∧ d.security = .bundle b ∧
            b.clientAuth.isSome = c.clientCert.isSome) ∧
        (c.serverCert = none → c.tls.isSome = true → d.security = .systemRoots) ∧
        d.will = c.will ∧
        d.login = c.credentials.map (fun k => (k.username, k.secret env)) ∧
        d.cleanSession = c.cleanSession ∧
        ∀ p, c.publish = some p →
          d.window.toNat = if p.maxInflight = 0 then 65535 else p.maxInflight.toNat := by
  have usable := (Config.stage_eq_ok_iff.mp staged).1
  obtain ⟨version, unshared, ordinary, security, kept, uncertified, certified⟩ :=
    settings_of_stage staged
  refine ⟨⟨version, unshared, fun k client => ?_, fun options tls => ?_⟩, fun endpoint d dialled => ?_⟩
  · obtain ⟨server, named⟩ := Option.isSome_iff_exists.mp (usable.vouched client)
    obtain ⟨b, loaded, -⟩ := certified server named
    exact (Security.Bundle.clientAuth_of_load loaded).2 k client
  · rw [ordinary options tls]
    exact ⟨rfl, rfl, rfl, rfl⟩
  · rw [kept] at dialled
    obtain ⟨i, identity, rfl⟩ := NetworkSettings.eq_of_dial dialled
    obtain rfl := Option.some.inj identity
    refine ⟨?_, fun server named => ?_, fun none tls => ?_, rfl, rfl, rfl, fun p publish => ?_⟩
    · cases named : c.serverCert with
      | none =>
        -- A client's certificate is accepted only beside certificates of the server.
        have alone : c.clientCert = none := by
          cases client : c.clientCert with
          | none => rfl
          | some k =>
            have vouched := usable.vouched client
            rw [named] at vouched
            cases vouched
        rw [uncertified named]
        cases tls : c.tls <;> simp [Config.usesTls, named, alone, unshared, tls]
      | some server =>
        obtain ⟨b, -, bundled⟩ := certified server named
        simp [bundled, Config.usesTls, named]
    · obtain ⟨b, loaded, bundled⟩ := certified server named
      exact ⟨b, loaded, bundled, (Security.Bundle.clientAuth_of_load loaded).1⟩
    · rw [uncertified none, if_pos tls]
    · rw [publish]
      exact PacketIds.toNat_ofLimit (usable.inflight publish)

/-- A configuration with certificates and with details of the transport security is dialled with the certificates. -/
theorem dial_of_stage_vouched :
    let fs : Files := ⟨[(["ca.pem"], .file ⟨#[67, 65]⟩)]⟩
    let c : Config := { Config.ofEndpoint "sensor" "broker" 8883 60 with
      serverCert := some ⟨some "ca.pem", none⟩
      tls := some default
      credentials := some ⟨"user", none, some "SECRET"⟩ }
    ∃ s d, c.stage (NetworkEngine.set fs) fs [("SECRET", "word")] "sensor" .fresh = (.ok (), s) ∧
      s.settings.dial ⟨"broker", 8883, 60⟩ = .ok d ∧ (d.security = .plain ↔ c.usesTls = false) ∧
      d.security = .bundle ⟨[67, 65], none⟩ ∧ d.login = some ("user", "word") := by
  refine ⟨_, _, rfl, rfl, ?_, rfl, rfl⟩
  refine ((dial_of_stage (show Config.stage (NetworkEngine.set ⟨[(["ca.pem"], .file ⟨#[67, 65]⟩)]⟩)
    ⟨[(["ca.pem"], .file ⟨#[67, 65]⟩)]⟩ [("SECRET", "word")]
    { Config.ofEndpoint "sensor" "broker" 8883 60 with
      serverCert := some ⟨some "ca.pem", none⟩
      tls := some default
      credentials := some ⟨"user", none, some "SECRET"⟩ } "sensor" .fresh = (.ok (), _) from rfl)).2
    ⟨"broker", 8883, 60⟩ _ rfl).1

end BrokerSession
