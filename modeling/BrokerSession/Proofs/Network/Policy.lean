import BrokerSession.Proofs.Network.Commands
import BrokerSession.Proofs.Network.Dial
import BrokerSession.Proofs.Network.Turns

/-!
# The policy of an engine

An engine is given its retry policy as an option, and every loop that it starts takes a copy along. No command and no
turn changes either of them, so that a loop retries by the policy that its engine was given, however many loops there
were before it. Nor does anybody but its owner tell an engine to be silent.

## Main definitions

* `NetworkEngine.Guided` - an engine that was given a policy, whose loop has the same

## Main results

* `policy_of_stage` - the policy of an engine that accepted a configuration
* `NetworkEngine.Guided.call`, `NetworkEngine.Guided.finish`, `NetworkEngine.Guided.turn` - the policy stays, and only
  an engine that is let go falls silent
-/

namespace BrokerSession

namespace NetworkEngine

variable {disk : Files} {n : Network} {s u : NetworkEngine} {now : Nat} {policy : RetryPolicy}

/-- An engine that was given a policy, and whose loop, if there is one, has the same. -/
structure Guided (policy : RetryPolicy) (s : NetworkEngine) : Prop where
  settings : s.settings.policy = policy
  loop : ∀ t, s.task = some t → t.loop.policy = policy

/-- What requests leave as it is. -/
def driven (s : NetworkEngine) : NetworkSettings × Bool × Option IoTask := (s.settings, s.attached, s.task)

/-- What an engine had before makes no difference to the policy that a configuration gives it. -/
theorem policy_of_stage {fs : Files} {env : Environment} {c : Config} {clientId : String}
    (staged : c.stage (set disk) fs env clientId s = (.ok (), u)) : u.settings.policy = c.retry := by
  have given := applyAll_eq_ok (Config.stage_eq_ok_iff.mp staged).2
  simp only [Config.settings, Setting.applyAll_append_eq_ok_iff] at given
  -- The policy is given with the first group of options, and none of the others touches it.
  obtain ⟨_, ⟨_, ⟨_, ⟨_, ⟨_, ⟨_, identity, will⟩, login⟩, publish⟩, bundle⟩, tls⟩, psk⟩ := given
  obtain ⟨-, rfl⟩ := NetworkSettings.of_identity identity
  obtain rfl := NetworkSettings.of_will will
  obtain rfl := NetworkSettings.of_credentials login
  obtain rfl := NetworkSettings.of_publish publish
  obtain ⟨unvouched, vouched⟩ := NetworkSettings.of_tlsBundle bundle
  obtain ⟨-, rfl⟩ := NetworkSettings.of_tls tls
  obtain ⟨-, settled⟩ := NetworkSettings.of_psk psk
  rw [settled]
  cases certified : c.serverCert with
  | none => rw [unvouched certified]
  | some server =>
    obtain ⟨b, -, eq⟩ := vouched server certified
    rw [eq]

theorem attached_of_driven (same : u.driven = s.driven) : u.attached = s.attached :=
  congrArg (fun d => d.2.1) same

theorem Guided.of_driven (h : s.Guided policy) (same : u.driven = s.driven) : u.Guided policy := by
  obtain ⟨settings, -, task⟩ : u.settings = s.settings ∧ u.attached = s.attached ∧ u.task = s.task := by
    simpa [driven] using same
  exact ⟨settings ▸ h.settings, fun t running => h.loop t (task ▸ running)⟩

/-- Requests concern neither the loop nor the settings. -/
theorem driven_of_handled {c : Command} {q : Request} {r : Reply} (handled : s.Handled c q r u) :
    u.driven = s.driven := by
  cases handled <;> rfl

theorem Guided.recover? (h : s.Guided policy) (back : s.recover? = some u) :
    u.Guided policy ∧ u.attached = s.attached := by
  obtain ⟨-, rfl⟩ := eq_of_recover? back
  exact ⟨⟨h.settings, nofun⟩, rfl⟩

/-- An engine that hears a command keeps its policy. -/
theorem Guided.call (h : s.Guided policy) (c : Command) : (s.call now c).Guided policy := by
  obtain ⟨grace, stopping, eq⟩ := call_frame s now c
  rw [eq]
  refine ⟨h.settings, fun t held => ?_⟩
  obtain ⟨t', running, rfl⟩ := Option.map_eq_some_iff.mp held
  exact h.loop t' running

theorem attached_call (c : Command) : (s.call now c).attached = s.attached := by
  obtain ⟨grace, stopping, eq⟩ := call_frame s now c
  rw [eq]

/-- An engine that carries out a command keeps its policy, and goes on telling whom it told unless it is let go. -/
theorem Guided.finish {c : Command} {r : Reply} (h : s.Guided policy) (done : s.finish n now c = some (r, u)) :
    u.Guided policy ∧ (c ≠ .destroy → u.attached = s.attached) := by
  cases finishes_of_finish done with
  | asked hands handled =>
    have same := driven_of_handled handled
    exact ⟨h.of_driven same, fun _ => attached_of_driven same⟩
  | undialed | running => exact ⟨h, fun _ => rfl⟩
  | opened asks right back =>
    obtain ⟨kept, told⟩ := h.recover? back
    exact ⟨⟨kept.settings, kept.loop⟩, fun _ => told⟩
  | started back idle =>
    -- The loop takes a copy of the policy along.
    obtain ⟨kept, told⟩ := h.recover? back
    refine ⟨⟨kept.settings, fun t running => ?_⟩, fun _ => told⟩
    obtain rfl := Option.some.inj running
    exact kept.settings
  | loopless back | stopped back =>
    obtain ⟨kept, told⟩ := h.recover? back
    exact ⟨kept, fun _ => told⟩
  | destroyed back =>
    obtain ⟨kept, -⟩ := h.recover? back
    exact ⟨⟨kept.settings, kept.loop⟩, fun other => absurd rfl other⟩

/-- A turn leaves the policy of the loop, and everything of the engine but the loop. -/
theorem Guided.turn {turn : LoopTurn} {reports : List Report} (h : s.Guided policy)
    (taken : s.turn? n now turn = some (reports, u)) : u.Guided policy ∧ u.attached = s.attached := by
  obtain ⟨t, t', extra, running, rfl, -, turns⟩ := turns_of_turn? taken
  refine ⟨⟨h.settings, fun t'' present => ?_⟩, rfl⟩
  obtain rfl := Option.some.inj present
  have before := h.loop t running
  cases turns with
  | goOn =>
    dsimp only
    split <;> exact before
  | _ => exact before

end NetworkEngine

end BrokerSession
