import BrokerSession.Proofs.Session.Recording
import BrokerSession.Proofs.Network.Dial
import BrokerSession.Session.Building
import Mathlib.Data.List.Basic

/-!
# The options that an engine is given

An engine is given the options of a configuration in a fixed order, each with the value that was configured, until it
refuses one. To see what it was given, its answers are noted down beside its state. When this goes wrong, no session
comes of it: the directory stays as it was, and the engine has heard no command.

## Main definitions

* `Setup.order`, `Config.requests` - the options in their order, and those that a configuration holds
* `Config.Covered` - nothing that a configuration holds is missing from a list of options
* `Setting.noted` - taking options, with a note of every answer
* `Setting.Handed` - how giving options to an engine can go

## Main results

* `Setting.handed_applyAll` - giving options goes in one of these ways, and noting the answers changes nothing
* `Config.map_filled_settings` - the options that are given are the ones that the configuration holds
* `Session.build_eq_establish` - building a session step by step
* `given_of_stage` - what an engine was given, how it ended, and what a failure leaves behind
-/

namespace BrokerSession

/-! ## What a configuration asks for -/

/-- The options in the order in which an engine gets them. -/
def Setup.order : List Setup := [.identity, .reconnect, .will, .credentials, .publish, .tlsBundle, .tls, .psk]

theorem Setup.mem_order (o : Setup) : o ∈ order := by
  cases o <;> decide

namespace Config

variable {fs : Files} {env : Environment} {c : Config} {clientId : String} {k k' : Credentials} {error : ConfigError}

/-- The credentials with the password that is written down, or else with the one in the environment. -/
def Credentials.filled (env : Environment) (k : Credentials) : Credentials :=
  { k with password := k.password.or (k.passwordEnv.bind fun name => env.lookup name) }

/-- The password is to be fetched from a variable that does not exist. -/
def Credentials.Lacks (env : Environment) (k : Credentials) (name : String) : Prop :=
  k.password = none ∧ k.passwordEnv = some name ∧ env.lookup name = none

theorem Credentials.resolve_eq_error_iff :
    k.resolve env = .error error ↔ ∃ name, k.Lacks env name ∧ error = .envVarNotFound name := by
  unfold resolve Lacks
  split
  · rename_i name unwritten named
    constructor
    · intro failed
      by_cases found : env.lookup name = none
      · rw [found] at failed
        exact ⟨name, ⟨unwritten, named, found⟩, (Except.error.inj failed).symm⟩
      · obtain ⟨word, value⟩ := Option.ne_none_iff_exists'.mp found
        simp [value] at failed
    · rintro ⟨name', ⟨-, named', missing⟩, rfl⟩
      obtain rfl : name = name' := Option.some.inj (named.symm.trans named')
      rw [missing]
  · rename_i written
    simp only [reduceCtorEq, false_iff]
    rintro ⟨name, ⟨unwritten, named, -⟩, -⟩
    exact written name unwritten named

theorem Credentials.filled_of_resolve (done : k.resolve env = .ok k') : k' = k.filled env := by
  unfold resolve at done
  unfold filled
  split at done
  · rename_i name unwritten named
    cases found : env.lookup name <;> simp_all
  · rename_i written
    obtain rfl := Except.ok.inj done
    obtain ⟨username, password, source⟩ := k
    cases password with
    | some word => rfl
    | none =>
      cases source with
      | none => rfl
      | some name => exact absurd rfl (written name rfl)

/-- What a configuration holds for an option, as an engine should get it. -/
def setting? (env : Environment) (c : Config) (clientId : String) : Setup → Option Setting
  | .identity => some (.identity clientId c.cleanSession c.version)
  | .reconnect => some (.reconnect c.retry)
  | .will => c.will.map .will
  | .credentials => c.credentials.map fun k => .credentials (k.filled env)
  | .publish => c.publish.map .publish
  | .tlsBundle => c.serverCert.map fun server => .tlsBundle server c.clientCert
  | .tls => c.tls.map .tls
  | .psk => c.psk.map .psk

/-- Everything that a configuration holds, in the order of the options. -/
def requests (env : Environment) (c : Config) (clientId : String) : List Setting :=
  Setup.order.filterMap (c.setting? env clientId)

theorem mem_requests_iff {x : Setting} : x ∈ c.requests env clientId ↔ ∃ o, c.setting? env clientId o = some x := by
  simp [requests, Setup.mem_order]

theorem requests_ne_nil : c.requests env clientId ≠ [] := by
  simp [requests, Setup.order, setting?]

/-- Nothing that a configuration holds is missing from a list of options. -/
structure Covered (env : Environment) (c : Config) (clientId : String) (given : List Setting) : Prop where
  identity : .identity clientId c.cleanSession c.version ∈ given
  reconnect : .reconnect c.retry ∈ given
  will : ∀ w, c.will = some w → .will w ∈ given
  credentials : ∀ k, c.credentials = some k → .credentials (k.filled env) ∈ given
  publish : ∀ p, c.publish = some p → .publish p ∈ given
  serverCert : ∀ server, c.serverCert = some server → .tlsBundle server c.clientCert ∈ given
  /-- The certificate of the client goes with those that vouch for the broker. -/
  clientCert : ∀ client, c.clientCert = some client → ∃ server, .tlsBundle server (some client) ∈ given
  tls : ∀ options, c.tls = some options → .tls options ∈ given
  psk : ∀ p, c.psk = some p → .psk p ∈ given

/-- What a configuration holds is asked for: a certificate of the client is not without one of the broker. -/
theorem covered_requests (usable : c.Usable fs) : c.Covered env clientId (c.requests env clientId) where
  identity := mem_requests_iff.mpr ⟨.identity, rfl⟩
  reconnect := mem_requests_iff.mpr ⟨.reconnect, rfl⟩
  will w held := mem_requests_iff.mpr ⟨.will, by simp [setting?, held]⟩
  credentials k held := mem_requests_iff.mpr ⟨.credentials, by simp [setting?, held]⟩
  publish p held := mem_requests_iff.mpr ⟨.publish, by simp [setting?, held]⟩
  serverCert server held := mem_requests_iff.mpr ⟨.tlsBundle, by simp [setting?, held]⟩
  clientCert client held := by
    obtain ⟨server, vouched⟩ := Option.isSome_iff_exists.mp (usable.vouched held)
    exact ⟨server, mem_requests_iff.mpr ⟨.tlsBundle, by simp [setting?, vouched, held]⟩⟩
  tls options held := mem_requests_iff.mpr ⟨.tls, by simp [setting?, held]⟩
  psk p held := mem_requests_iff.mpr ⟨.psk, by simp [setting?, held]⟩

end Config

/-! ## Giving options -/

namespace Setting

variable {σ : Type} {set : σ → Setting → Status × σ} {env : Environment} {c : Config} {clientId : String}
  {x y : Setting} {xs : List Setting} {given : List (Setting × Status)} {outcome : Except ConfigError Unit}
  {error : ConfigError}

/-- The option with the password that goes with it. -/
def filled (env : Environment) : Setting → Setting
  | credentials k => .credentials (k.filled env)
  | x => x

theorem filled_of_resolve (done : x.resolve env = .ok y) : y = x.filled env ∧ y.option = x.option := by
  cases x with
  | credentials k =>
    cases fetched : k.resolve env with
    | error error => simp [resolve, fetched, Except.map] at done
    | ok k' =>
      simp only [resolve, fetched, Except.map, Except.ok.injEq] at done
      subst done
      exact ⟨congrArg credentials (Config.Credentials.filled_of_resolve fetched), rfl⟩
  | _ =>
    obtain rfl := Except.ok.inj done
    exact ⟨rfl, rfl⟩

/-- Only credentials may not be found. -/
theorem resolve_eq_error_iff :
    x.resolve env = .error error ↔ ∃ k name, x = .credentials k ∧ k.Lacks env name ∧ error = .envVarNotFound name := by
  cases x with
  | credentials k =>
    have fails : (credentials k).resolve env = .error error ↔ k.resolve env = .error error := by
      cases fetched : k.resolve env <;> simp [resolve, fetched, Except.map]
    rw [fails, Config.Credentials.resolve_eq_error_iff]
    simp
  | _ => simp [resolve]

/-- Takes an option, and notes down what was answered to it. -/
def noted (set : σ → Setting → Status × σ) (s : σ × List (Setting × Status)) (x : Setting) :
    Status × σ × List (Setting × Status) :=
  let (status, t) := set s.1 x
  (status, t, s.2 ++ [(x, status)])

/-- How giving options to an engine can go: what it was given, with its answers, and how it ended. -/
inductive Handed (env : Environment) : List Setting → List (Setting × Status) → Except ConfigError Unit → Prop
  | done : Handed env [] [] (.ok ())
  | lacking {x : Setting} {xs : List Setting} {error : ConfigError} (lacks : x.resolve env = .error error) :
    Handed env (x :: xs) [] (.error error)
  | refused {x y : Setting} {xs : List Setting} {status : Status} (resolved : x.resolve env = .ok y)
    (fails : status ≠ .success) : Handed env (x :: xs) [(y, status)] (.error (.rejected y.option status))
  | accepted {x y : Setting} {xs : List Setting} {given : List (Setting × Status)} {outcome : Except ConfigError Unit}
    (resolved : x.resolve env = .ok y) (rest : Handed env xs given outcome) :
    Handed env (x :: xs) ((y, .success) :: given) outcome

/-- Giving options goes in one of these ways, and it is not changed by what is noted down. -/
theorem handed_applyAll (set : σ → Setting → Status × σ) (env : Environment) (xs : List Setting) (s : σ)
    (earlier : List (Setting × Status)) :
    ∃ outcome t given, applyAll (noted set) env xs (s, earlier) = (outcome, t, earlier ++ given) ∧
      applyAll set env xs s = (outcome, t) ∧ Handed env xs given outcome := by
  induction xs generalizing s earlier with
  | nil => exact ⟨.ok (), s, [], by simp [applyAll], rfl, .done⟩
  | cons x xs ih =>
    rw [applyAll, applyAll]
    cases resolved : x.resolve env with
    | error error => exact ⟨.error error, s, [], by simp, rfl, .lacking resolved⟩
    | ok y =>
      rcases taken : set s y with ⟨status, t⟩
      have kept : noted set (s, earlier) y = (status, t, earlier ++ [(y, status)]) := by simp [noted, taken]
      dsimp only
      rw [kept, taken]
      by_cases accepted : status = .success
      · subst accepted
        obtain ⟨outcome, u, given, withNotes, without, handed⟩ := ih t (earlier ++ [(y, .success)])
        refine ⟨outcome, u, (y, .success) :: given, ?_, ?_, .accepted resolved handed⟩
        · simpa using withNotes
        · simpa using without
      · have refuses : status.isSuccess = false := Bool.eq_false_iff.mpr (accepted ∘ Status.isSuccess_iff.mp)
        exact ⟨.error (.rejected y.option status), t, [(y, status)], by simp [refuses], by simp [refuses],
          .refused resolved accepted⟩

namespace Handed

/-- What an engine was given is what it was to be given, up to where it ended. -/
theorem given_prefix (handed : Handed env xs given outcome) : given.map Prod.fst <+: xs.map (filled env) := by
  induction handed with
  | done => exact List.nil_prefix
  | lacking => exact List.nil_prefix
  | refused resolved fails =>
    obtain ⟨rfl, -⟩ := filled_of_resolve resolved
    exact ⟨_, rfl⟩
  | accepted resolved rest ih =>
    obtain ⟨rfl, -⟩ := filled_of_resolve resolved
    exact List.cons_prefix_cons.mpr ⟨rfl, ih⟩

/-- It went well exactly if everything was given and nothing was refused. -/
theorem ok_iff (handed : Handed env xs given outcome) :
    outcome = .ok () ↔ given.map Prod.fst = xs.map (filled env) ∧ ∀ x ∈ given, x.2 = .success := by
  induction handed with
  | done => simp
  | lacking => simp
  | refused resolved fails => simp [fails]
  | accepted resolved rest ih =>
    obtain ⟨rfl, -⟩ := filled_of_resolve resolved
    simp [ih]

/-- It ended early with the last option that was given, or before credentials that could not be found. -/
theorem error_cases (handed : Handed env xs given (.error error)) :
    (∃ early x status, given = early ++ [(x, status)] ∧ (∀ y ∈ early, y.2 = .success) ∧ status ≠ .success ∧
      error = .rejected x.option status) ∨
    ∃ k name late, .credentials k ∈ xs ∧ k.Lacks env name ∧ error = .envVarNotFound name ∧
      xs.map (filled env) = given.map Prod.fst ++ .credentials (k.filled env) :: late ∧
      ∀ y ∈ given, y.2 = .success := by
  generalize ended : Except.error error = outcome at handed
  induction handed with
  | done => cases ended
  | lacking lacks =>
    obtain rfl := Except.error.inj ended
    obtain ⟨k, name, rfl, lacks, missing⟩ := resolve_eq_error_iff.mp lacks
    exact .inr ⟨k, name, _, List.mem_cons_self, lacks, missing, rfl, by simp⟩
  | @refused x y xs status resolved fails =>
    exact .inl ⟨[], y, status, rfl, by simp, fails, Except.error.inj ended⟩
  | @accepted x y xs given outcome resolved rest ih =>
    obtain ⟨rfl, -⟩ := filled_of_resolve resolved
    rcases ih ended with ⟨early, z, status, rfl, willing, refusal⟩ |
        ⟨k, name, late, held, lacks, missing, split, willing⟩
    · exact .inl ⟨(x.filled env, .success) :: early, z, status, rfl, by simpa using willing, refusal⟩
    · exact .inr ⟨k, name, late, List.mem_cons_of_mem _ held, lacks, missing, by simp [split], by simpa using willing⟩

/-- Credentials that cannot be found are not given. -/
theorem no_credentials (handed : Handed env xs given outcome)
    (lacks : ∀ k, .credentials k ∈ xs → ∃ name, k.Lacks env name) : ∀ x ∈ given, x.1.option ≠ .credentials := by
  have unresolved {x y : Setting} (listed : x ∈ xs) (resolved : x.resolve env = .ok y) : y.option ≠ .credentials := by
    rw [(filled_of_resolve resolved).2]
    intro same
    cases x with
    | credentials k =>
      obtain ⟨name, lacking⟩ := lacks k listed
      rw [resolve_eq_error_iff.mpr ⟨k, name, rfl, lacking, rfl⟩] at resolved
      cases resolved
    | _ => cases same
  induction handed with
  | done | lacking => simp
  | refused resolved => simpa using unresolved List.mem_cons_self resolved
  | accepted resolved rest ih =>
    have others := ih (fun k held => lacks k (List.mem_cons_of_mem _ held))
      fun listed => unresolved (List.mem_cons_of_mem _ listed)
    simpa [unresolved List.mem_cons_self resolved] using others

end Handed

end Setting

theorem Config.stage_of_usable {σ : Type} {fs : Files} {c : Config} (usable : c.Usable fs)
    (set : σ → Setting → Status × σ) (env : Environment) (clientId : String) (s : σ) :
    c.stage set fs env clientId s = Setting.applyAll set env (c.settings clientId) s := by
  rw [stage, show c.fault? fs = none from usable]

/-- Nothing is given to the engine, not even the identity that every configuration asks for. -/
theorem Config.stage_of_fault {σ : Type} {fs : Files} {c : Config} {fault : ConfigError}
    (broken : c.fault? fs = some fault) (set : σ → Setting → Status × σ) (env : Environment) (clientId : String)
    (s : σ) : c.stage set fs env clientId s = (.error fault, s) := by
  rw [stage, broken]

/-- The options that an engine is to be given are those that the configuration holds, in their order. -/
theorem Config.map_filled_settings (env : Environment) (c : Config) (clientId : String) :
    (c.settings clientId).map (Setting.filled env) = c.requests env clientId := by
  simp only [settings, requests, Setup.order, List.filterMap_eq_flatMap_toList, List.flatMap_cons, List.flatMap_nil,
    setting?, List.map_append, Option.toList_map, List.map_map, List.append_assoc, List.append_nil]
  rfl

/-! ## Building a session -/

namespace Building

variable {σ α β : Type} {x : Building σ α} {f : α → Building σ β} {site site' : Site σ}

/-- When a part fails, what is to follow it does not happen. -/
theorem bind_of_error {error : SessionError} (failed : x site = (.error error, site')) :
    (x >>= f) site = (.error error, site') := by
  change (match x site with | (r, site') => ExceptT.bindCont f r site') = _
  rw [failed]
  rfl

theorem bind_of_ok {a : α} (done : x site = (.ok a, site')) : (x >>= f) site = f a site' := by
  change (match x site with | (r, site') => ExceptT.bindCont f r site') = _
  rw [done]
  rfl

theorem giveOptions_of_stage {e : Engine σ} {fs : Files} {env : Environment} {c : Config} {clientId : String}
    {outcome : Except ConfigError Unit} {engine : σ}
    (staged : c.stage e.set fs env clientId site.engine = (outcome, engine)) :
    giveOptions e fs env c clientId site = (outcome.mapError SessionError.config, { site with engine }) := by
  have looked : (get : Building σ (Site σ)) site = (.ok site, site) := rfl
  unfold giveOptions
  rw [bind_of_ok looked]
  dsimp only
  rw [staged]
  cases outcome <;> rfl

end Building

namespace Session

variable {σ : Type} {e : Engine σ} {fs : Files} {env : Environment} {c : Config} {clientId : String}

/-- What comes of building a session is what `establish` says, with the directory as it is then. -/
theorem build_eq_establish (e : Engine σ) (hosted : Bool) (fs : Files) (env : Environment) (c : Config)
    (clientId : String) (wanted : List Notice.Kind) (site : Site σ) :
    build e hosted fs env c clientId wanted site =
      match establish e hosted fs env c clientId wanted site.directory site.engine with
      | (.ok s, engine) => (.ok s, ⟨engine, s.directory⟩)
      | (.error error, engine) => (.error error, ⟨engine, site.directory⟩) := by
  unfold build establish
  by_cases there : hosted = true
  · subst there
    have host : Building.requireHost true site = (.ok (), site) := rfl
    rw [Building.bind_of_ok host]
    rcases staged : c.stage e.set fs env clientId site.engine with ⟨outcome, engine⟩
    have given := Building.giveOptions_of_stage staged
    cases outcome with
    | error error => exact Building.bind_of_error given
    | ok => exact Building.bind_of_ok given
  · obtain rfl := Bool.eq_false_iff.mpr there
    rfl

/-- A session that cannot be built because of its options leaves nothing but what the options did to the engine. -/
theorem build_of_error {error : ConfigError} {s t : σ} (staged : c.stage e.set fs env clientId s = (.error error, t))
    (wanted : List Notice.Kind) (directory : Directory Listener) :
    build e true fs env c clientId wanted ⟨s, directory⟩ = (.error (.config error), ⟨t, directory⟩) := by
  have failed : establish e true fs env c clientId wanted directory s = (.error (.config error), t) := by
    simp [establish, staged]
  rw [build_eq_establish, failed]

/-- Options do not come into the record of an engine. -/
theorem applyAll_recorded (e : Engine σ) (env : Environment) (xs : List Setting) (r : Recorded σ) :
    Setting.applyAll e.recorded.set env xs r =
      ((Setting.applyAll e.set env xs r.inner).1, { r with inner := (Setting.applyAll e.set env xs r.inner).2 }) := by
  induction xs generalizing r with
  | nil => rfl
  | cons x xs ih =>
    rw [Setting.applyAll, Setting.applyAll]
    cases x.resolve env with
    | error error => rfl
    | ok y =>
      rcases taken : e.set r.inner y with ⟨status, inner⟩
      have kept : e.recorded.set r y = (status, { r with inner }) := by simp [Engine.recorded, taken]
      simp only [taken, kept]
      by_cases accepted : status.isSuccess = true
      · simpa [accepted] using ih { r with inner }
      · simp [accepted]

theorem stage_recorded (e : Engine σ) (fs : Files) (env : Environment) (c : Config) (clientId : String)
    (r : Recorded σ) :
    c.stage e.recorded.set fs env clientId r =
      ((c.stage e.set fs env clientId r.inner).1, { r with inner := (c.stage e.set fs env clientId r.inner).2 }) := by
  unfold Config.stage
  cases c.fault? fs with
  | some fault => rfl
  | none => exact applyAll_recorded e env _ r

end Session

/-- Of a configuration that is not usable an engine is given nothing. Of a usable one it is given the options that the
configuration holds, in their order and with their values, and it is never passed over one; it goes well exactly if all
of them were given and none was refused. Otherwise the last option that was given was refused, and the error says which
it was and how; or the password is in a variable that does not exist, and then neither the credentials nor anything
after them was given. Whatever the error, no session is built, the directory is as it was, and the engine has heard no
command: nothing was done to it but giving it these options. -/
theorem given_of_stage {σ : Type} (e : Engine σ) (fs : Files) (env : Environment) (c : Config) (clientId : String)
    (s : σ) :
    ∃ outcome t given,
      c.stage (Setting.noted e.set) fs env clientId (s, []) = (outcome, t, given) ∧
      c.stage e.set fs env clientId s = (outcome, t) ∧
      (∀ fault, c.fault? fs = some fault → given = [] ∧ outcome = .error fault) ∧
      (given.map Prod.fst <+: c.requests env clientId ∧
        (outcome = .ok () ↔
          given.map Prod.fst = c.requests env clientId ∧ ∀ x ∈ given, x.2 = .success)) ∧
      (c.Usable fs → c.Covered env clientId (c.requests env clientId) ∧
        (∀ k name, c.credentials = some k → k.Lacks env name → ∀ x ∈ given, x.1.option ≠ .credentials) ∧
        ∀ error, outcome = .error error →
          (∃ early x status, given = early ++ [(x, status)] ∧ (∀ y ∈ early, y.2 = .success) ∧ status ≠ .success ∧
            error = .rejected x.option status) ∨
          ∃ k name late, c.credentials = some k ∧ k.Lacks env name ∧ error = .envVarNotFound name ∧
            c.requests env clientId = given.map Prod.fst ++ .credentials (k.filled env) :: late ∧
            ∀ y ∈ given, y.2 = .success) ∧
      ∀ error, outcome = .error error → ∀ wanted directory,
        Session.build e.recorded true fs env c clientId wanted ⟨⟨s, [], []⟩, directory⟩ =
          (.error (.config error), ⟨⟨t, [], []⟩, directory⟩) := by
  have unbuilt {t : σ} (error : ConfigError) (staged : c.stage e.set fs env clientId s = (.error error, t))
      (wanted : List Notice.Kind) (directory : Directory Listener) :
      Session.build e.recorded true fs env c clientId wanted ⟨⟨s, [], []⟩, directory⟩ =
        (.error (.config error), ⟨⟨t, [], []⟩, directory⟩) := by
    apply Session.build_of_error
    rw [Session.stage_recorded, staged]
  -- A configuration that is not usable is refused before any of its options is given.
  by_cases usable : c.Usable fs
  · obtain ⟨outcome, t, given, withNotes, without, handed⟩ :=
      Setting.handed_applyAll e.set env (c.settings clientId) s []
    rw [← Config.stage_of_usable usable] at withNotes without
    -- The only credentials among the options are those of the configuration.
    have listed (k : Config.Credentials) : .credentials k ∈ c.settings clientId ↔ c.credentials = some k := by
      simp [Config.settings]
    refine ⟨outcome, t, given, withNotes, without, fun fault broken => ?_, ⟨?_, ?_⟩, fun _ => ⟨?_, ?_, ?_⟩, ?_⟩
    · rw [show c.fault? fs = none from usable] at broken
      cases broken
    · exact c.map_filled_settings env clientId ▸ handed.given_prefix
    · exact c.map_filled_settings env clientId ▸ handed.ok_iff
    · exact c.covered_requests usable
    · intro k name held lacks
      refine handed.no_credentials fun k' among => ⟨name, ?_⟩
      obtain rfl := Option.some.inj (held.symm.trans ((listed k').mp among))
      exact lacks
    · rintro error rfl
      rcases handed.error_cases with refused | ⟨k, name, late, among, lacks, missing, split, willing⟩
      · exact .inl refused
      · rw [c.map_filled_settings] at split
        exact .inr ⟨k, name, late, (listed k).mp among, lacks, missing, split, willing⟩
    · rintro error rfl
      exact unbuilt error without
  · obtain ⟨fault, broken⟩ := Option.ne_none_iff_exists'.mp usable
    refine ⟨.error fault, s, [], Config.stage_of_fault broken .., Config.stage_of_fault broken ..,
      fun fault' broken' => ⟨rfl, ?_⟩, ⟨List.nil_prefix, ?_⟩, fun passes => absurd passes usable, ?_⟩
    · rw [Option.some.inj (broken.symm.trans broken')]
    · simp [Config.requests_ne_nil.symm]
    · intro error same
      cases same
      exact unbuilt fault (Config.stage_of_fault broken ..)

/-- An engine that refuses certificates has been given everything up to them, with the password from the environment,
and nothing after them. -/
theorem given_of_stage_uncertified :
    ∃ fs c t, c.credentials = some ⟨"user", none, some "SECRET"⟩ ∧ c.tls = some default ∧
      Session.build Loopback.engine.recorded true fs [("SECRET", "word")] c "sensor" []
          ⟨⟨.fresh [("set_tls_bundle", .notSupported)] [] 0, [], []⟩, .empty⟩ =
        (.error (.config (.rejected .tlsBundle .notSupported)), ⟨⟨t, [], []⟩, .empty⟩) ∧
      t.calls = [.set (.identity "sensor" true default), .set (.reconnect default),
        .set (.credentials ⟨"user", some "word", some "SECRET"⟩), .set (.tlsBundle ⟨some "ca.pem", none⟩ none)] := by
  obtain ⟨outcome, t, given, -, staged, -, -, -, unbuilt⟩ := given_of_stage Loopback.engine
    ⟨[(["ca.pem"], .file ⟨#[67, 65]⟩)]⟩ [("SECRET", "word")]
    { Config.ofEndpoint "sensor" "broker" 8883 60 with
      credentials := some ⟨"user", none, some "SECRET"⟩
      serverCert := some ⟨some "ca.pem", none⟩
      tls := some default }
    "sensor" (.fresh [("set_tls_bundle", .notSupported)] [] 0)
  obtain ⟨rfl, rfl⟩ := Prod.mk.inj staged
  exact ⟨_, _, _, rfl, rfl, unbuilt _ rfl [] .empty, rfl⟩

end BrokerSession
