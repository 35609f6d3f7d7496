import BrokerSession.Proofs.Network.Lives
import Mathlib.Algebra.GroupWithZero.Nat

/-!
# How large the packets of accepted requests are

A connection is opened with a limit for packets. A packet begins with a byte for its kind and then has its own length,
in seven bits a byte, before what it carries: for a publish a topic with two bytes for its length, two bytes for a
number unless it is sent only once, and the payload; for a subscription a number, and every filter with its length and a
byte for the guarantee.

The engine looks at sizes only when something is published, and compares the limit with the topic and the payload alone.
So a publish that it accepts can be too large by the few bytes that the packet adds. Subscriptions are not looked at,
and can be as large as one likes.

## Main definitions

* `Request.packetSize` - how many bytes the packet of a request has
* `Request.LeavesRoom` - what a request carries is so much below the limit that the packet does not exceed it

## Main results

* `Request.packetSize_le_iff` - a packet is within the limit exactly if there is room for what is added
* `packetSize_of_accepted` - the packets of the requests that a network engine accepts
* `oversized_publish_accepted` - an accepted publish with a packet that is too large
-/

namespace BrokerSession

/-! ## Packets on the wire -/

/-- How many bytes a length takes in seven bits a byte. Nothing longer than four such bytes is ever sent. -/
def lengthBytes (length : Nat) : Nat :=
  if length < 128 then 1 else if length < 16384 then 2 else if length < 2097152 then 3 else 4

namespace Request

/-- How many bytes of a packet follow its length. -/
def remainingLength : Request → Nat
  | publish topic payload qos _ => 2 + topic.utf8ByteSize + payload.size + if qos = .atMostOnce then 0 else 2
  | subscribe filters _ => 2 + (filters.map fun filter => 3 + filter.utf8ByteSize).sum
  | unsubscribe filter => 4 + filter.utf8ByteSize
  | disconnect => 0

/-- How many bytes the packet of a request has. -/
def packetSize (q : Request) : Nat := 1 + lengthBytes q.remainingLength + q.remainingLength

/-- What a request carries is so much below the limit that the rest of the packet fits in. -/
def LeavesRoom : Request → Prop
  | publish topic payload qos _ =>
    topic.utf8ByteSize + payload.size + (if qos = .atMostOnce then 6 else 8) ≤ maxPacketSize
  | subscribe filters _ => (filters.map fun filter => 3 + filter.utf8ByteSize).sum + 6 ≤ maxPacketSize
  | unsubscribe filter => filter.utf8ByteSize + 8 ≤ maxPacketSize
  | disconnect => True

/-- Whether a request is to publish something. -/
def isPublish : Request → Bool
  | publish .. => true
  | _ => false

theorem lengthBytes_pos (length : Nat) : 0 < lengthBytes length := by
  unfold lengthBytes
  split_ifs <;> omega

theorem remainingLength_lt_packetSize (q : Request) : q.remainingLength < q.packetSize := by
  have := lengthBytes_pos q.remainingLength
  unfold packetSize
  omega

/-- Near the limit a length takes three bytes, and well below it there is room in any case. -/
theorem packetSize_le_iff_remainingLength (q : Request) :
    q.packetSize ≤ maxPacketSize ↔ q.remainingLength + 4 ≤ maxPacketSize := by
  unfold packetSize lengthBytes maxPacketSize
  split_ifs <;> omega

/-- A packet is within the limit exactly if what it carries leaves room for the rest of it. -/
theorem packetSize_le_iff (q : Request) : q.packetSize ≤ maxPacketSize ↔ q.LeavesRoom := by
  rw [packetSize_le_iff_remainingLength]
  cases q with
  | publish topic payload qos retain =>
    simp only [remainingLength, LeavesRoom]
    split_ifs <;> omega
  | subscribe | unsubscribe =>
    simp only [remainingLength, LeavesRoom]
    omega
  | disconnect => simp [remainingLength, LeavesRoom, maxPacketSize]

/-- There is a subscription with a packet of more bytes than any number, and every one of its filters is fine. -/
theorem exists_subscribe_packetSize_gt (bound : Nat) :
    ∃ filters : List String, filters ≠ [] ∧ (∀ filter ∈ filters, NetworkEngine.acceptsFilter filter = true) ∧
      bound < (subscribe filters .atMostOnce).packetSize := by
  refine ⟨List.replicate (bound + 1) "a", by simp, ?_, ?_⟩
  · intro filter among
    rw [List.eq_of_mem_replicate among]
    decide
  · have carried : bound + 1 ≤ (subscribe (List.replicate (bound + 1) "a") .atMostOnce).remainingLength := by
      simp only [remainingLength, List.map_replicate, List.sum_replicate_nat]
      have : bound + 1 ≤ (bound + 1) * (3 + "a".utf8ByteSize) := Nat.le_mul_of_pos_right _ (by omega)
      omega
    have := remainingLength_lt_packetSize (subscribe (List.replicate (bound + 1) "a") .atMostOnce)
    omega

end Request

/-! ## Sizes and replies -/

variable {c : Command} {q : Request}

/-- A publish that a client has nothing against is at most eight bytes too large. -/
theorem Request.packetSize_le_of_fault? (hands : c.request? = some q) (fine : c.fault? = none)
    (publishes : q.isPublish = true) : q.packetSize ≤ maxPacketSize + 8 := by
  cases c <;> cases hands <;> cases publishes
  rename_i topic payload qos retain
  have small : topic.utf8ByteSize + payload.size ≤ maxPacketSize := by
    by_contra large
    simp [Command.fault?, Nat.lt_of_not_le large] at fine
  unfold maxPacketSize at *
  simp only [Request.packetSize, Request.remainingLength, lengthBytes]
  split_ifs <;> omega

/-- A size is only ever objected to in a publish, and then the packet is too large. -/
theorem Command.packetSize_of_fault? (fault : c.fault? = some .payloadSize) :
    ∃ q, c.request? = some q ∧ q.isPublish = true ∧ maxPacketSize < q.packetSize := by
  cases c with
  | publish topic payload qos retain =>
    refine ⟨_, rfl, rfl, ?_⟩
    have large : maxPacketSize < topic.utf8ByteSize + payload.size := by
      by_contra small
      simp [Command.fault?, small] at fault
    have := Request.remainingLength_lt_packetSize (.publish topic payload qos retain)
    simp only [Request.remainingLength] at this
    omega
  | subscribe filters qos =>
    simp only [Command.fault?] at fault
    split at fault <;> cases fault
  | _ => cases fault

namespace NetworkEngine

variable {n : Network} {s u : NetworkEngine} {now : Nat} {r : Reply}

theorem fault?_of_verdict {status : Status} (verdict : s.verdict c = status) (tells : status ≠ .success)
    (there : status ≠ .noConn) (room : status ≠ .noMem) : c.fault? = some status := by
  cases client : s.client with
  | none =>
    simp only [NetworkEngine.verdict, client] at verdict
    exact absurd verdict.symm there
  | some number =>
    cases fault : c.fault? with
    | some status' => rw [← verdict, verdict_of_fault client fault]
    | none =>
      rw [verdict_of_try client fault] at verdict
      split at verdict
      · exact absurd verdict.symm tells
      · unfold refusedStatus at verdict
        split at verdict
        · exact absurd verdict.symm room
        · exact absurd verdict.symm there

/-- A command is refused for a size only if it hands in a publish with too large a packet. -/
theorem packetSize_of_refused (done : s.finish n now c = some (r, u)) (refused : r.status = .payloadSize) :
    ∃ q, c.request? = some q ∧ q.isPublish = true ∧ maxPacketSize < q.packetSize := by
  cases finishes_of_finish done with
  | asked hands handled =>
    cases handled with
    | accepted fits answer => simp [refused] at answer
    | refused fails =>
      have verdict : s.verdict c = .payloadSize := refused
      exact Command.packetSize_of_fault? (fault?_of_verdict verdict nofun nofun nofun)
  | undialed asks wrong =>
    obtain rfl := status_of_undialed wrong
    cases refused
  | _ => cases refused

/-- An engine with a connection and room in front of its loop accepts every request that nothing is wrong with. -/
theorem accepted_of_room {client : Nat} (there : s.client = some client) (takes : s.takes client = true)
    (room : s.requests.length < capacity) (hands : c.request? = some q) (fine : c.fault? = none)
    (lets : c.isAcceptable = true) : ∃ r u, s.finish n now c = some (r, u) ∧ r.status = .success := by
  have taken : s.takesNow client c = true := by simp [takesNow, lets, takes, room]
  have verdict : s.verdict c = .success := verdict_eq_success_iff.mpr ⟨fine, client, there, taken⟩
  have done : s.finish n now c = some _ := finish_of_request hands
  rw [if_pos verdict] at done
  exact ⟨_, _, done, (acknowledge_frame _ c).1⟩

end NetworkEngine

/-! ## Requests that loops have taken -/

namespace Workshop

variable {fs : Files} {n : Network} {h : List (Incident LoopIncident)} {busy : Option Command} {w : Workshop}

/-- Whatever was accepted in a life, the client had nothing against it. -/
theorem fault?_of_answered (life : Lives fs n h busy w) {r : Reply} (hands : c.request? = some q)
    (answered : .answered c r ∈ h) (accepted : r.status = .success) : c.fault? = none := by
  induction life with
  | begin => cases answered
  | set x life earlier => exact earlier (by simpa using answered)
  | attach life earlier => exact earlier (by simpa using answered)
  | hear now c' life earlier => exact earlier (by simpa using answered)
  | @answer h w w' now c' r' life done earlier =>
    rcases List.mem_append.mp answered with before | last
    · exact earlier before
    · obtain ⟨rfl, rfl⟩ : c = c' ∧ r = r' := by simpa using last
      obtain ⟨⟨r, u⟩, performed, eq⟩ := Option.map_eq_some_iff.mp done
      cases eq
      cases NetworkEngine.handled_of_finish hands performed with
      | accepted fits => exact (NetworkEngine.verdict_eq_success_iff.mp fits).1
      | refused fails => exact absurd accepted fails
  | aside life happened earlier => exact earlier (by simpa using answered)

theorem exists_answered_of_mem_requestsOf {ι : Type} {h : List (Incident ι)} {k : Nat} (among : q ∈ requestsOf k h) :
    ∃ c r, .answered c r ∈ h ∧ r.status = .success ∧ c.request? = some q := by
  obtain ⟨x, inside, accepted⟩ := List.mem_filterMap.mp among
  have sub : ∀ (j : Nat) (h : List (Incident ι)), x ∈ during j h → x ∈ h := by
    intro j h
    induction h generalizing j with
    | nil => exact id
    | cons y h ih => cases j <;> grind [during]
  cases x with
  | answered c r =>
    simp only [Incident.accepted?] at accepted
    split at accepted
    · rename_i fine
      exact ⟨c, r, sub _ _ inside, fine, accepted⟩
    · cases accepted
  | _ => cases accepted

/-- A publish that a loop has taken is at most eight bytes too large. -/
theorem packetSize_of_taken (life : Lives fs n h busy w) {k : Nat} (taken : q ∈ takenBy k h)
    (publishes : q.isPublish = true) : q.packetSize ≤ maxPacketSize + 8 := by
  have accepted : q ∈ requestsOf k h := ((Paired.of_life life).taken k).subset taken
  obtain ⟨c, r, answered, fine, hands⟩ := exists_answered_of_mem_requestsOf accepted
  exact Request.packetSize_le_of_fault? hands (fault?_of_answered life hands answered fine) publishes

end Workshop

/-- A request that a network engine accepts waits for the loop, and its packet is within the limit exactly if what it
carries leaves room for the rest of the packet; a publish misses the limit by eight bytes at most, also when a loop has
taken it. Nothing that would fit is refused for its size. But with a connection and room for requests, a publish that
does not leave enough room is accepted if it is not larger than the limit by itself, and subscriptions of any size are.
The limit is the one that connections are opened with. -/
theorem packetSize_of_accepted (s : NetworkEngine) :
    (∀ n now c q r u, c.request? = some q → s.finish n now c = some (r, u) → r.status = .success →
      u.requests = s.requests ++ [q] ∧ (q.packetSize ≤ maxPacketSize ↔ q.LeavesRoom) ∧
        (q.isPublish = true → q.packetSize ≤ maxPacketSize + 8)) ∧
    (∀ n now c r u, s.finish n now c = some (r, u) → r.status = .payloadSize →
      ∃ q, c.request? = some q ∧ q.isPublish = true ∧ maxPacketSize < q.packetSize) ∧
    (∀ n now client, s.client = some client → s.takes client = true → s.requests.length < NetworkEngine.capacity →
      (∀ topic payload qos retain, Topic.hasWildcard topic = false →
        topic.utf8ByteSize + payload.size ≤ maxPacketSize → ¬ (Request.publish topic payload qos retain).LeavesRoom →
        ∃ r u, s.finish n now (.publish topic payload qos retain) = some (r, u) ∧ r.status = .success ∧
          maxPacketSize < (Request.publish topic payload qos retain).packetSize) ∧
      ∀ bound, ∃ filters r u, s.finish n now (.subscribe filters .atMostOnce) = some (r, u) ∧ r.status = .success ∧
        bound < (Request.subscribe filters .atMostOnce).packetSize) ∧
    (∀ (t : NetworkSettings) e d, t.dial e = .ok d → d.maxPacketSize = maxPacketSize) ∧
    ∀ fs n h busy w k q, Workshop.Lives fs n h busy w → q ∈ takenBy k h → q.isPublish = true →
      q.packetSize ≤ maxPacketSize + 8 := by
  refine ⟨fun n now c q r u hands done accepted => ?_, fun n now c r u => NetworkEngine.packetSize_of_refused,
    fun n now client there takes room => ⟨fun topic payload qos retain plain small tight => ?_, fun bound => ?_⟩,
    fun t e d dialed => ?_,
    fun fs n h busy w k q life => Workshop.packetSize_of_taken life⟩
  · cases NetworkEngine.handled_of_finish hands done with
    | accepted fits answer =>
      have fine := (NetworkEngine.verdict_eq_success_iff.mp fits).1
      exact ⟨rfl, q.packetSize_le_iff, Request.packetSize_le_of_fault? hands fine⟩
    | refused fails => exact absurd accepted fails
  · -- The check compares the topic and the payload alone, so a publish without room for the rest passes it.
    have fine : (Command.publish topic payload qos retain).fault? = none := if_neg (Nat.not_lt.mpr small)
    obtain ⟨r, u, done, accepted⟩ :=
      NetworkEngine.accepted_of_room there takes room rfl fine (by simp [Command.isAcceptable, plain])
    rw [← Request.packetSize_le_iff, Nat.not_le] at tight
    exact ⟨r, u, done, accepted, tight⟩
  · obtain ⟨filters, named, lets, large⟩ := Request.exists_subscribe_packetSize_gt bound
    obtain ⟨r, u, done, accepted⟩ := NetworkEngine.accepted_of_room (c := .subscribe filters .atMostOnce) there takes
      room rfl (by simp [Command.fault?, named]) (List.all_eq_true.mpr lets)
    exact ⟨filters, r, u, done, accepted, large⟩
  · obtain ⟨i, -, rfl⟩ := NetworkSettings.eq_of_dial dialed
    rfl

section

open Workshop

/-- An engine with a connection accepts a small publish, refuses a large one, and accepts a large subscription; its loop
takes the small publish. -/
theorem packetSize_of_accepted_joined :
    let small : Request := .publish "news" .empty .atLeastOnce false
    let large : Command := .publish "news" ⟨Array.replicate maxPacketSize 0⟩ .atMostOnce false
    (small.packetSize ≤ maxPacketSize ↔ small.LeavesRoom) ∧
      (∃ u, joinedEngine.finish .unreachable 0 large = some (.ofStatus .payloadSize, u) ∧
        ∃ q, large.request? = some q ∧ q.isPublish = true ∧ maxPacketSize < q.packetSize) ∧
      (∃ filters r u, joinedEngine.finish .unreachable 0 (.subscribe filters .atMostOnce) = some (r, u) ∧
        r.status = .success ∧ maxPacketSize < (Request.subscribe filters .atMostOnce).packetSize) ∧
      (∀ d, joinedEngine.dial? = .ok d → d.maxPacketSize = maxPacketSize) ∧
      ∃ h w, Lives .empty .unreachable h none w ∧ small ∈ takenBy 0 h ∧ small.packetSize ≤ maxPacketSize + 8 := by
  intro small large
  obtain ⟨accepted, refused, unlimited, dialed, taken⟩ := packetSize_of_accepted joinedEngine
  have waits := accepted .unreachable 0 (.publish "news" .empty .atLeastOnce false) small ⟨.success, 1⟩ _ rfl rfl rfl
  have refusal : joinedEngine.finish .unreachable 0 large = some (.ofStatus .payloadSize, joinedEngine) := by
    have fault : large.fault? = some .payloadSize := by simp [large, Command.fault?, ByteArray.size]
    have verdict := NetworkEngine.verdict_of_fault (s := joinedEngine) rfl fault
    rw [NetworkEngine.finish_of_request rfl, verdict]
    rfl
  have heard := lives_started.exchange 0 (.publish "news" .empty .atLeastOnce false) rfl
  have took : Lives .empty .unreachable _ none _ := heard.aside (@Aside.took _ _ ⟨_, []⟩ joinedLoop [small] []
    (List.mem_singleton_self _) rfl rfl rfl)
  exact ⟨waits.2.1, ⟨_, refusal, refused _ _ _ _ _ refusal rfl⟩,
    (unlimited .unreachable 0 0 rfl (by decide) (by decide)).2 maxPacketSize,
    fun d => dialed joinedEngine.settings ⟨"broker", 1883, 60⟩ d,
    _, _, took, by decide, taken _ _ _ _ _ 0 small took (by decide) rfl⟩

/-- A publish with a topic and a payload that come to the limit exactly is accepted, and its packet is too large. -/
theorem oversized_publish_accepted :
    ∃ h w c q r u, Lives .empty .unreachable h none w ∧ w.engine.finish .unreachable 0 c = some (r, u) ∧
      r.status = .success ∧ c.request? = some q ∧ ¬ q.packetSize ≤ maxPacketSize := by
  let payload : ByteArray := ⟨Array.replicate 262141 0⟩
  let c : Command := .publish "a/b" payload .atMostOnce false
  have size : "a/b".utf8ByteSize + payload.size = maxPacketSize := by
    have topic : "a/b".utf8ByteSize = 3 := by decide
    simp [topic, payload, ByteArray.size, maxPacketSize]
  have fine : c.fault? = none := by simp [c, Command.fault?, size]
  have client : joinedEngine.client = some 0 := rfl
  obtain ⟨r, u, done, accepted⟩ : ∃ r u, joinedEngine.finish .unreachable 0 c = some (r, u) ∧ r.status = .success :=
    NetworkEngine.accepted_of_room client (by decide) (by decide) rfl fine (by decide)
  refine ⟨_, _, c, _, r, u, lives_joined, done, accepted, rfl, ?_⟩
  rw [Request.packetSize_le_iff]
  simp [Request.LeavesRoom, size]

end

end BrokerSession
