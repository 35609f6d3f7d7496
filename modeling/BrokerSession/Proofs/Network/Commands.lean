import BrokerSession.Network
import BrokerSession.Proofs.Session.Overtaking

/-!
# What commands do to a network engine

Commands come in two kinds. Some hand a request to the event loop of the client and are answered at once: the request
waits for the loop then, or it is refused and nothing has happened. The others are about the loop itself, and wait until
none is at work.

## Main definitions

* `Command.request?`, `Command.address?` - the request that a command hands in, and the broker that it names
* `NetworkEngine.verdict` - the status of a request
* `NetworkEngine.Handled` - what becomes of a request
* `NetworkEngine.Finishes` - everything that carrying out a command may do

## Main results

* `NetworkEngine.finish_of_request` - a request has the status of its verdict, and a refused one changes nothing
* `NetworkEngine.finishes_of_finish` - what an engine does when it carries out a command
* `NetworkEngine.call_frame` - what it does when it hears one
-/

namespace BrokerSession

namespace Command

/-- The request that a command hands to an event loop. -/
def request? : Command → Option Request
  | publish topic payload qos retain => some (.publish topic payload qos retain)
  | subscribe filters qos => some (.subscribe filters qos)
  | unsubscribe filter => some (.unsubscribe filter)
  | disconnect => some .disconnect
  | _ => none

/-- The broker that a command names. -/
def address? : Command → Option Endpoint
  | connect host port keepAlive => some ⟨host, port, keepAlive⟩
  | _ => none

/-- The status of a request that a client does not even try. -/
def fault? : Command → Option Status
  | publish topic payload _ _ =>
    if maxPacketSize < topic.utf8ByteSize + payload.size then some .payloadSize else none
  | subscribe filters _ => if filters.isEmpty then some .inval else none
  | _ => none

/-- Whether an event loop lets the request of a command through. -/
def isAcceptable : Command → Bool
  | publish topic .. => !Topic.hasWildcard topic
  | subscribe filters _ => filters.all NetworkEngine.acceptsFilter
  | _ => true

/-- A command that hands in a request asks for no connection. -/
theorem asks_of_request? {c : Command} {q : Request} (hands : c.request? = some q) : c.asks = false := by
  cases c <;> first | rfl | cases hands

theorem fault?_ne_success (c : Command) : c.fault? ≠ some .success := by
  cases c <;> simp only [fault?] <;> grind

theorem fault?_ne_noConn (c : Command) : c.fault? ≠ some .noConn := by
  cases c <;> simp only [fault?] <;> grind

end Command

namespace NetworkEngine

variable {n : Network} {s u v : NetworkEngine} {now : Nat} {c : Command} {q : Request} {r : Reply}

/-! ## Requests -/

/-- Whether the request of a command is taken from a client. -/
def takesNow (s : NetworkEngine) (client : Nat) (c : Command) : Bool :=
  c.isAcceptable && s.takes client && s.requests.length < capacity

/-- The status of the request of a command. -/
def verdict (s : NetworkEngine) (c : Command) : Status :=
  match s.client with
  | none => .noConn
  | some client => c.fault?.getD (if s.takesNow client c then .success else s.refusedStatus)

/-- What is answered to a command whose request was taken. -/
def acknowledge (s : NetworkEngine) : Command → Reply × NetworkEngine
  | .disconnect => (.ofStatus .success, { s with disconnectRequested := true })
  | .publish _ _ qos _ => if qos = .atMostOnce then (⟨.success, 0⟩, s) else s.numbered
  | _ => s.numbered

theorem refusedStatus_ne_success (s : NetworkEngine) : s.refusedStatus ≠ .success := by
  unfold refusedStatus
  split <;> exact nofun

theorem verdict_of_fault {client : Nat} {status : Status} (there : s.client = some client)
    (fault : c.fault? = some status) : s.verdict c = status := by
  simp [verdict, there, fault]

/-- A request that nothing is against is tried, and has its status from that. -/
theorem verdict_of_try {client : Nat} (there : s.client = some client) (tries : c.fault? = none) :
    s.verdict c = if s.takesNow client c then .success else s.refusedStatus := by
  simp [verdict, there, tries]

theorem verdict_eq_success_iff :
    s.verdict c = .success ↔ c.fault? = none ∧ ∃ client, s.client = some client ∧ s.takesNow client c = true := by
  cases there : s.client with
  | none => simp [verdict, there]
  | some client =>
    cases fault : c.fault? with
    | some status =>
      have fails : status ≠ .success := fun same => c.fault?_ne_success (fault.trans (congrArg some same))
      simp [verdict_of_fault there fault, fails]
    | none =>
      rw [verdict_of_try there fault]
      simp [s.refusedStatus_ne_success]

theorem takes_of_verdict (fits : s.verdict c = .success) :
    ∃ client, s.client = some client ∧ s.takes client = true := by
  obtain ⟨-, client, there, taken⟩ := verdict_eq_success_iff.mp fits
  simp only [takesNow, Bool.and_eq_true] at taken
  exact ⟨client, there, taken.1.2⟩

/-- An engine without any event loop takes nothing. -/
theorem takes_of_loopless (loopless : s.hasLoop = false) (client : Nat) : s.takes client = false := by
  simp only [hasLoop, Bool.or_eq_false_iff, Option.isSome_eq_false_iff, Option.isNone_iff_eq_none] at loopless
  simp [takes, loopless.1, loopless.2]

/-- There is no connection for a request exactly without a client, or without an event loop to try it on. -/
theorem verdict_eq_noConn_iff :
    s.verdict c = .noConn ↔ s.client = none ∨ s.hasLoop = false ∧ c.fault? = none := by
  cases there : s.client with
  | none => simp [verdict, there]
  | some client =>
    cases fault : c.fault? with
    | some status =>
      have other : status ≠ .noConn := fun same => c.fault?_ne_noConn (fault.trans (congrArg some same))
      simp [verdict_of_fault there fault, other]
    | none =>
      rw [verdict_of_try there fault]
      cases loop : s.hasLoop with
      | true =>
        have full : s.refusedStatus = .noMem := if_pos loop
        rw [full]
        split <;> simp
      | false =>
        have taken : s.takesNow client c = false := by simp [takesNow, takes_of_loopless loop]
        have lost : s.refusedStatus = .noConn := by simp [refusedStatus, loop]
        simp [taken, lost]

/-- An answer to a request may give out a number or note a disconnect, and has no other effect. -/
theorem acknowledge_frame (s : NetworkEngine) (c : Command) :
    (s.acknowledge c).1.status = .success ∧
      ∃ ids parted, (s.acknowledge c).2 = { s with ids, disconnectRequested := parted } := by
  cases c with
  | publish topic payload qos retain =>
    simp only [acknowledge]
    split <;> exact ⟨rfl, _, _, rfl⟩
  | _ => exact ⟨rfl, _, _, rfl⟩

/-- A command that hands in a request is answered at once. If nothing is against the request it waits for the event
loop, and otherwise the verdict is all that there is. -/
theorem finish_of_request (hands : c.request? = some q) :
    s.finish n now c =
      some (if s.verdict c = .success then { s with requests := s.requests ++ [q] }.acknowledge c
        else (.ofStatus (s.verdict c), s)) := by
  cases there : s.client with
  | none =>
    have lost : s.verdict c = .noConn := by simp [verdict, there]
    rw [lost, if_neg nofun]
    cases c <;> cases hands <;> simp [finish, publish, subscribe, unsubscribe, disconnect, there]
  | some client =>
    cases fault : c.fault? with
    | some status =>
      have fails : status ≠ .success := fun same => c.fault?_ne_success (fault.trans (congrArg some same))
      rw [verdict_of_fault there fault, if_neg fails]
      cases c <;> simp only [Command.fault?] at fault <;> grind [finish, publish, subscribe]
    | none =>
      -- The client has no objection, so it depends on the loop and on the room in front of it.
      have tried : s.request? client c.isAcceptable q =
          if s.takesNow client c then some { s with requests := s.requests ++ [q] } else none := rfl
      rw [verdict_of_try there fault]
      cases taken : s.takesNow client c with
      | true =>
        rw [taken, if_pos rfl] at tried
        rw [if_pos rfl, if_pos rfl]
        cases c <;> cases hands <;>
          grind [finish, publish, subscribe, unsubscribe, disconnect, Command.fault?, Command.isAcceptable, acknowledge]
      | false =>
        rw [taken, if_neg Bool.false_ne_true] at tried
        rw [if_neg Bool.false_ne_true, if_neg s.refusedStatus_ne_success]
        cases c <;> cases hands <;>
          grind [finish, publish, subscribe, unsubscribe, disconnect, Command.fault?, Command.isAcceptable]

/-- What becomes of a request: it waits for the event loop, or nothing has happened. -/
inductive Handled (s : NetworkEngine) (c : Command) (q : Request) : Reply → NetworkEngine → Prop
  | accepted {r : Reply} {ids : PacketIds} {parted : Bool} (fits : s.verdict c = .success)
    (answer : r.status = .success) :
    Handled s c q r { s with requests := s.requests ++ [q], ids, disconnectRequested := parted }
  | refused (fails : s.verdict c ≠ .success) : Handled s c q (.ofStatus (s.verdict c)) s

theorem handled_of_finish (hands : c.request? = some q) (done : s.finish n now c = some (r, u)) :
    s.Handled c q r u := by
  rw [finish_of_request hands] at done
  split at done
  · rename_i fits
    obtain ⟨answer, ids, parted, same⟩ := acknowledge_frame { s with requests := s.requests ++ [q] } c
    rw [Option.some.inj done] at answer same
    dsimp only at answer same
    subst same
    exact .accepted fits answer
  · rename_i fails
    cases done
    exact .refused fails

/-! ## The event loop -/

/-- The event loop that there is once the running one has ended. One that broke down does not come back. -/
def returned (s : NetworkEngine) : Option Nat :=
  match s.task with
  | none => s.idle
  | some t => if t.broken then s.idle else some t.number

theorem eq_of_recover? (back : s.recover? = some u) :
    s.isRunning = false ∧ u = { s with task := none, idle := s.returned, grace := none } := by
  unfold recover? at back
  unfold isRunning returned
  cases held : s.task with
  | none =>
    rw [held] at back
    cases back
    exact ⟨rfl, by simp [← held]⟩
  | some t =>
    rw [held] at back
    simp only [Option.ite_none_right_eq_some, Option.some.injEq] at back
    obtain ⟨ended, rfl⟩ := back
    simp [ended]

/-- An engine that takes its loop back has none at work. -/
theorem task_of_recover? (back : s.recover? = some u) : u.task = none := by
  rw [(eq_of_recover? back).2]

/-- A loop that breaks down was running, and stays with the engine. -/
theorem eq_of_breakDown? {t : IoTask} (held : s.task = some t) (broken : s.breakDown? = some u) :
    u = { s with task := some { t with finished := true, broken := true } } := by
  simp only [breakDown?, held, Option.ite_none_left_eq_some, Option.some.injEq] at broken
  exact broken.2.symm

theorem eq_of_abandon? {t : IoTask} (held : s.task = some t) (cut : s.abandon? = some u) :
    u = { s with task := none, grace := none } := by
  simp only [abandon?, held, Option.ite_none_right_eq_some, Option.some.injEq] at cut
  exact cut.2.symm

/-- An engine can open a connection unless it has no broker to go to or no identity to show there. -/
theorem status_of_undialed {status : Status} (wrong : s.dial? = .error status) : status = .inval := by
  simp only [dial?, NetworkSettings.dial] at wrong
  grind

/-- Everything that carrying out a command may do. -/
inductive Finishes (s : NetworkEngine) : Command → Reply → NetworkEngine → Prop
  | asked {c : Command} {q : Request} {r : Reply} {u : NetworkEngine} (hands : c.request? = some q)
    (handled : s.Handled c q r u) : Finishes s c r u
  /-- There is nothing to open a connection with. -/
  | undialed {c : Command} {status : Status} (asks : c.asks = true) (wrong : s.dial? = .error status) :
    Finishes s c (.ofStatus status) s
  | opened {c : Command} {d : Dial} {u : NetworkEngine} (asks : c.asks = true) (right : s.dial? = .ok d)
    (back : s.recover? = some u) : Finishes s c (.ofStatus .success) (u.openLink d)
  /-- The loop that is to be started runs already. -/
  | running (runs : s.isRunning = true) : Finishes s .startLoop (.ofStatus .success) s
  | started {u : NetworkEngine} {number next : Nat} (back : s.recover? = some u) (idle : u.idle = some number) :
    Finishes s .startLoop (.ofStatus .success)
      { u with
        idle := none
        task := some {
          number
          loop := .start u.settings.policy
          next
          resting := false
          stopping := false
          finished := false
          broken := false } }
  /-- There is no loop to start. -/
  | loopless {u : NetworkEngine} (back : s.recover? = some u) (idle : u.idle = none) :
    Finishes s .startLoop (.ofStatus .noConn) u
  | stopped {u : NetworkEngine} (back : s.recover? = some u) : Finishes s .stopLoop (.ofStatus .success) u
  | destroyed {u : NetworkEngine} (back : s.recover? = some u) :
    Finishes s .destroy (.ofStatus .success) { u with client := none, idle := none, attached := false }

theorem finishes_of_reopen? (asks : c.asks = true) (done : s.reopen? = some (r, u)) : s.Finishes c r u := by
  unfold reopen? at done
  cases right : s.dial? with
  | error status =>
    rw [right] at done
    cases done
    exact .undialed asks right
  | ok d =>
    rw [right] at done
    obtain ⟨v, back, eq⟩ := Option.map_eq_some_iff.mp done
    cases eq
    exact .opened asks right back

/-- An engine that carries out a command does one of these things. -/
theorem finishes_of_finish (done : s.finish n now c = some (r, u)) : s.Finishes c r u := by
  cases c with
  | connect | reconnect => exact finishes_of_reopen? rfl done
  | publish | subscribe | unsubscribe | disconnect => exact .asked rfl (handled_of_finish rfl done)
  | startLoop =>
    simp only [finish] at done
    split at done
    · rename_i runs
      cases done
      exact .running runs
    · obtain ⟨v, back, eq⟩ := Option.map_eq_some_iff.mp done
      cases idle : v.idle with
      | none =>
        simp only [startIdle, idle] at eq
        cases eq
        exact .loopless back idle
      | some number =>
        simp only [startIdle, idle] at eq
        cases eq
        exact .started back idle
  | stopLoop =>
    obtain ⟨v, back, eq⟩ := Option.map_eq_some_iff.mp done
    cases eq
    exact .stopped back
  | destroy =>
    obtain ⟨v, back, eq⟩ := Option.map_eq_some_iff.mp done
    cases eq
    exact .destroyed back

/-- An engine that wants its loop to end leaves everything else as it is. -/
theorem halt_frame (s : NetworkEngine) (now : Nat) :
    ∃ grace stopping, s.halt now =
      { s with grace, task := s.task.map fun t => { t with stopping := stopping || t.stopping } } := by
  unfold halt
  cases held : s.task with
  | none => exact ⟨s.grace, false, by simp [← held]⟩
  | some t =>
    dsimp only
    split
    · exact ⟨some (now + graceMillis), false, by simp [← held]⟩
    · exact ⟨s.grace, true, by simp⟩

/-- An engine that hears a command remembers the broker that it names, and may tell its loop to stop. -/
theorem call_frame (s : NetworkEngine) (now : Nat) (c : Command) :
    ∃ grace stopping, s.call now c =
      { s with
        endpoint := c.address?.or s.endpoint
        grace
        task := s.task.map fun t => { t with stopping := stopping || t.stopping } } := by
  have still (s : NetworkEngine) : ∃ grace stopping,
      s = { s with grace, task := s.task.map fun t => { t with stopping := stopping || t.stopping } } :=
    ⟨s.grace, false, by simp⟩
  cases c with
  | connect host port keepAlive =>
    unfold call
    dsimp only
    split
    · exact halt_frame _ now
    · exact still _
  | reconnect =>
    unfold call
    dsimp only
    split
    · exact halt_frame s now
    · exact still s
  | stopLoop | destroy => exact halt_frame s now
  | _ => exact still s

end NetworkEngine

end BrokerSession
