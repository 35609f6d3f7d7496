import BrokerSession.Proofs.Session.Replay

/-!
# How the loopback engine routes messages

The loopback engine keeps its subscriptions in a list, in which a new subscription to a filter takes the place of an
older one. What it does with the list can be said without it: a filter is granted what the last successful request
about it says, and a message goes out under the strongest guarantee that any matching filter was granted, bounded by
its own.

## Main definitions

* `Deed` - a request about messages with the reply to it
* `granted` - what a filter is granted after some deeds
* `Routed` - the messages that come back in the course of deeds
* `Reported` - everything that an application is told about its deeds
* `Loopback.Ready` - a connected engine that grants what its deeds say

## Main results

* `not_offered_of_delivery?`, `exists_best_of_delivery?` - the list of subscriptions routes as `granted` says
* `Ready.deed` - what becomes of one request
-/

namespace BrokerSession

/-! ## Requests and replies -/

namespace Operation

/-- Whether an operation is about messages or subscriptions. -/
def isMessage : Operation → Bool
  | publish .. => true
  | subscribe .. => true
  | unsubscribe _ => true
  | _ => false

/-- Whether an operation connects the session to a broker that is named. -/
def dials : Operation → Bool
  | connect .. => true
  | connectConfigured => true
  | _ => false

/-- The task of an operation on a session that is meant to run. -/
def task (c : Config) : Operation → Task
  | connect host port keepAlive => .connect host port keepAlive
  | connectConfigured => .connect c.host c.port c.keepAliveSecs
  | reconnect => .reconnect
  | disconnect => .disconnect false
  | publish topic payload qos retain => .publish topic payload qos retain
  | subscribe filters qos => .subscribe filters qos
  | unsubscribe filter => .unsubscribe filter

/-- Whether the topic or the filters of an operation are well-formed. -/
def isUsable : Operation → Bool
  | publish topic .. => (Topic.nameFault? topic).isNone
  | subscribe filters _ => subscribable filters
  | unsubscribe filter => (Topic.filterFault? filter).isNone
  | _ => true

end Operation

/-- A request with the reply to it. -/
structure Deed where
  asked : Operation
  reply : Reply

namespace Deed

/-- The number of a message that was published. -/
def published? (d : Deed) : Option MessageId :=
  match d.asked with
  | .publish .. => if d.reply.isSuccess then some d.reply.id else none
  | _ => none

/-- The number of a subscription that was granted, with what was granted to each of its filters. -/
def subscribed? (d : Deed) : Option (MessageId × List Int) :=
  match d.asked with
  | .subscribe filters qos =>
    if d.reply.isSuccess then some (d.reply.id, filters.map fun _ => (qos.level : Int)) else none
  | _ => none

/-- The number of a subscription's end. -/
def unsubscribed? (d : Deed) : Option MessageId :=
  match d.asked with
  | .unsubscribe _ => if d.reply.isSuccess then some d.reply.id else none
  | _ => none

/-- What a deed says about a filter, if it says something: what the filter is granted, or that it is not. -/
def verdict? (d : Deed) (filter : String) : Option (Option Qos) :=
  match d.asked with
  | .subscribe filters qos => if d.reply.isSuccess ∧ filter ∈ filters then some (some qos) else none
  | .unsubscribe ended => if d.reply.isSuccess ∧ filter = ended then some none else none
  | _ => none

end Deed

/-- What a filter is granted after some deeds: what the last of them about it says. -/
def granted (past : List Deed) (filter : String) : Option Qos :=
  (past.filterMap (·.verdict? filter)).getLast?.join

theorem granted_concat (past : List Deed) (d : Deed) (filter : String) :
    granted (past ++ [d]) filter = (d.verdict? filter).getD (granted past filter) := by
  unfold granted
  cases said : d.verdict? filter <;> simp [List.filterMap_append, said]

/-- Whether some filter that selects a topic is granted a guarantee. -/
def Offered (past : List Deed) (topic : String) (qos : Qos) : Prop :=
  ∃ filter, granted past filter = some qos ∧ Topic.selects filter topic = true

/-- Whether a guarantee is the strongest that any filter for a topic is granted. -/
structure Best (past : List Deed) (topic : String) (best : Qos) : Prop where
  offered : Offered past topic best
  greatest : ∀ qos, Offered past topic qos → qos.level ≤ best.level

/-- The messages that come back for one deed, after the ones before it. -/
inductive Routes (past : List Deed) : Deed → List Message → Prop
  | silent {d : Deed} (unpublished : d.published? = none) : Routes past d []
  | unheard {topic : String} {payload : ByteArray} {qos : Qos} {retain : Bool} {r : Reply}
      (none : ∀ other, ¬ Offered past topic other) :
      Routes past ⟨.publish topic payload qos retain, r⟩ []
  | heard {topic : String} {payload : ByteArray} {qos best : Qos} {retain : Bool} {r : Reply}
      (success : r.isSuccess = true) (strongest : Best past topic best) :
      Routes past ⟨.publish topic payload qos retain, r⟩ [⟨r.id, topic, payload, qos.weaker best, false⟩]

/-- The messages that come back in the course of deeds, after the ones before them. -/
inductive Routed : List Deed → List Deed → List Message → Prop
  | nil {past : List Deed} : Routed past [] []
  | cons {past deeds : List Deed} {d : Deed} {own later : List Message} (first : Routes past d own)
      (rest : Routed (past ++ [d]) deeds later) : Routed past (d :: deeds) (own ++ later)

/-! ## What an application is told -/

namespace Notice

/-- The number of a message whose handshake is complete. -/
def published? : Notice → Option MessageId
  | published id => some id
  | _ => none

/-- A message that has arrived. -/
def message? : Notice → Option Message
  | message m => some m
  | _ => none

/-- The answer to a subscription. -/
def subscribed? : Notice → Option (MessageId × List Int)
  | subscribed id levels => some (id, levels)
  | _ => none

/-- The number of a subscription that has ended. -/
def unsubscribed? : Notice → Option MessageId
  | unsubscribed id => some id
  | _ => none

end Notice

/-- Whether notices tell of deeds: every publish, subscription and end of a subscription that succeeded is
acknowledged once, in order and under its number, and every message that went out to a granted filter comes back. -/
structure Reported (past deeds : List Deed) (notices : List Notice) : Prop where
  published : notices.filterMap Notice.published? = deeds.filterMap Deed.published?
  subscribed : notices.filterMap Notice.subscribed? = deeds.filterMap Deed.subscribed?
  unsubscribed : notices.filterMap Notice.unsubscribed? = deeds.filterMap Deed.unsubscribed?
  messages : Routed past deeds (notices.filterMap Notice.message?)

theorem Reported.nil (past : List Deed) : Reported past [] [] := ⟨rfl, rfl, rfl, .nil⟩

theorem Routed.single {past : List Deed} {d : Deed} {own : List Message} (first : Routes past d own) :
    Routed past [d] own := by
  have alone := Routed.cons first .nil
  rwa [List.append_nil] at alone

theorem Routed.append_single {past deeds : List Deed} {d : Deed} {own later : List Message}
    (first : Routed past [d] own) (rest : Routed (past ++ [d]) deeds later) :
    Routed past (d :: deeds) (own ++ later) := by
  cases first with
  | cons first empty =>
    cases empty
    rw [List.append_nil]
    exact .cons first rest

theorem Reported.cons {past deeds : List Deed} {d : Deed} {own later : List Notice}
    (first : Reported past [d] own) (rest : Reported (past ++ [d]) deeds later) :
    Reported past (d :: deeds) (own ++ later) := by
  refine ⟨?_, ?_, ?_, ?_⟩
  · rw [List.filterMap_append, first.published, rest.published, ← List.filterMap_append]
    rfl
  · rw [List.filterMap_append, first.subscribed, rest.subscribed, ← List.filterMap_append]
    rfl
  · rw [List.filterMap_append, first.unsubscribed, rest.unsubscribed, ← List.filterMap_append]
    rfl
  · rw [List.filterMap_append]
    exact first.messages.append_single rest.messages

/-- A publish is acknowledged, and its message comes back as it is routed. -/
theorem Reported.of_publish {past : List Deed} {topic : String} (payload : ByteArray) (qos : Qos)
    (retain : Bool) {r : Reply} {ms : List Message} (success : r.isSuccess = true)
    (routes : Routes past ⟨.publish topic payload qos retain, r⟩ ms) :
    Reported past [⟨.publish topic payload qos retain, r⟩]
      (.published r.id :: ms.map Notice.message) := by
  refine ⟨?_, ?_, ?_, ?_⟩
  · simp [Notice.published?, Deed.published?, success, List.filterMap_map,
      Function.comp_def]
  · simp [List.filterMap_cons, Notice.subscribed?, Deed.subscribed?, List.filterMap_map,
      Function.comp_def]
  · simp [List.filterMap_cons, Notice.unsubscribed?, Deed.unsubscribed?, List.filterMap_map,
      Function.comp_def]
  · have arrived : (Notice.published r.id :: ms.map Notice.message).filterMap Notice.message? = ms := by
      simp [List.filterMap_cons, Notice.message?, List.filterMap_map, Function.comp_def]
    rw [arrived]
    exact .single routes

theorem Reported.of_subscribe (past : List Deed) (filters : List String) (qos : Qos) {r : Reply}
    (success : r.isSuccess = true) :
    Reported past [⟨.subscribe filters qos, r⟩]
      [.subscribed r.id (filters.map fun _ => (qos.level : Int))] := by
  refine ⟨rfl, ?_, rfl, Routed.single (.silent rfl)⟩
  simp [Notice.subscribed?, Deed.subscribed?, success]

theorem Reported.of_unsubscribe (past : List Deed) (ended : String) {r : Reply}
    (success : r.isSuccess = true) :
    Reported past [⟨.unsubscribe ended, r⟩] [.unsubscribed r.id] := by
  refine ⟨rfl, rfl, ?_, Routed.single (.silent rfl)⟩
  simp [Notice.unsubscribed?, Deed.unsubscribed?, success]

/-! ## The strongest guarantee -/

namespace Qos

theorem level_inj {a b : Qos} (h : a.level = b.level) : a = b := by
  cases a <;> cases b <;> first | rfl | cases h

theorem level_weaker (a b : Qos) : (a.weaker b).level = min a.level b.level := by
  unfold weaker
  split <;> omega

theorem level_stronger (a b : Qos) : (a.stronger b).level = max a.level b.level := by
  unfold stronger
  split <;> omega

/-- The strongest of some guarantees is one of them, and none is stronger. -/
theorem foldl_stronger (first : Qos) (rest : List Qos) :
    rest.foldl stronger first ∈ first :: rest ∧
      ∀ q ∈ first :: rest, q.level ≤ (rest.foldl stronger first).level := by
  induction rest generalizing first with
  | nil => simp
  | cons next rest ih =>
    obtain ⟨among, greatest⟩ := ih (first.stronger next)
    have bound := greatest _ List.mem_cons_self
    rw [level_stronger] at bound
    refine ⟨?_, fun q held => ?_⟩
    · rcases List.mem_cons.mp among with strongest | behind
      · rw [List.foldl_cons, strongest]
        unfold stronger
        split <;> simp
      · exact List.mem_cons_of_mem _ (List.mem_cons_of_mem _ behind)
    · rcases List.mem_cons.mp held with rfl | later
      · exact Nat.le_trans (Nat.le_max_left ..) bound
      · rcases List.mem_cons.mp later with rfl | behind
        · exact Nat.le_trans (Nat.le_max_right ..) bound
        · exact greatest q (List.mem_cons_of_mem _ behind)

end Qos

/-! ## The list of subscriptions -/

namespace Loopback

variable {u : Loopback} {past : List Deed} {cmd : Command}

/-- Whether a list of subscriptions holds what the filters are granted, and nothing else. -/
def Holds (subscriptions : List (String × Qos)) (grants : String → Option Qos) : Prop :=
  ∀ filter qos, (filter, qos) ∈ subscriptions ↔ grants filter = some qos

/-- A new subscription takes the place of an older one for the same filter. -/
theorem Holds.subscribed {subscriptions : List (String × Qos)} {grants : String → Option Qos}
    (holds : Holds subscriptions grants) (qos : Qos) (wanted : String) :
    Holds (subscribed qos subscriptions wanted)
      fun filter => if filter = wanted then some qos else grants filter := by
  intro filter level
  by_cases same : filter = wanted
  · simp [Loopback.subscribed, same, eq_comm]
  · simp [Loopback.subscribed, same, holds filter level]

theorem Holds.foldl_subscribed {subscriptions : List (String × Qos)} {grants : String → Option Qos}
    (holds : Holds subscriptions grants) (qos : Qos) (filters : List String) :
    Holds (filters.foldl (Loopback.subscribed qos) subscriptions)
      fun filter => if filter ∈ filters then some qos else grants filter := by
  induction filters generalizing subscriptions grants with
  | nil => simpa using holds
  | cons wanted filters ih =>
    have later := ih (holds.subscribed qos wanted)
    refine fun filter level => (later filter level).trans (Eq.to_iff (congrArg (· = some level) ?_))
    by_cases same : filter = wanted <;> by_cases among : filter ∈ filters <;> simp [same, among]

theorem Holds.unsubscribed {subscriptions : List (String × Qos)} {grants : String → Option Qos}
    (holds : Holds subscriptions grants) (ended : String) :
    Holds (subscriptions.filter (·.1 != ended))
      fun filter => if filter = ended then none else grants filter := by
  intro filter level
  by_cases same : filter = ended
  · simp [same]
  · simp [same, holds filter level]

/-- What the filters for a topic were granted. -/
def offers (u : Loopback) (topic : String) : List Qos :=
  (u.subscriptions.filter fun (filter, _) => Topic.selects filter topic).map Prod.snd

theorem delivery?_eq (u : Loopback) (topic : String) (qos : Qos) :
    u.delivery? topic qos =
      match (u.offers topic).map qos.weaker with
      | [] => none
      | first :: rest => some (rest.foldl Qos.stronger first) := by
  rw [offers, List.map_map]
  rfl

theorem mem_offers_iff (holds : Holds u.subscriptions (granted past)) {topic : String} {level : Qos} :
    level ∈ u.offers topic ↔ Offered past topic level := by
  unfold offers Offered
  rw [List.mem_map]
  constructor
  · rintro ⟨⟨filter, level⟩, held, rfl⟩
    obtain ⟨kept, selects⟩ := List.mem_filter.mp held
    exact ⟨filter, (holds filter level).mp kept, selects⟩
  · rintro ⟨filter, grant, selects⟩
    exact ⟨(filter, level), List.mem_filter.mpr ⟨(holds filter level).mpr grant, selects⟩, rfl⟩

/-- Nothing is delivered for a topic that no granted filter selects. -/
theorem not_offered_of_delivery? (holds : Holds u.subscriptions (granted past)) {topic : String}
    {qos : Qos} (h : u.delivery? topic qos = none) (other : Qos) : ¬ Offered past topic other := by
  intro offered
  have among := (mem_offers_iff holds).mpr offered
  rw [delivery?_eq] at h
  cases at_ : u.offers topic with
  | nil => rw [at_] at among; cases among
  | cons first rest => rw [at_] at h; cases h

/-- A delivery goes out under the strongest guarantee that a matching filter was granted, bounded by its own. -/
theorem exists_best_of_delivery? (holds : Holds u.subscriptions (granted past)) {topic : String}
    {qos delivered : Qos} (h : u.delivery? topic qos = some delivered) :
    ∃ best, Best past topic best ∧ delivered = qos.weaker best := by
  rw [delivery?_eq] at h
  cases at_ : u.offers topic with
  | nil => rw [at_] at h; cases h
  | cons first rest =>
    -- Bounding the guarantees first and taking the strongest first come to the same.
    have bounded : (rest.map qos.weaker).foldl Qos.stronger (qos.weaker first) = delivered := by
      rw [at_] at h
      exact Option.some.inj h
    obtain ⟨among, greatest⟩ := Qos.foldl_stronger (qos.weaker first) (rest.map qos.weaker)
    obtain ⟨offered, strongest⟩ := Qos.foldl_stronger first rest
    rw [bounded, ← List.map_cons] at among
    rw [bounded, ← List.map_cons] at greatest
    generalize rest.foldl Qos.stronger first = best at offered strongest
    rw [← at_] at among greatest offered strongest
    refine ⟨best, ⟨(mem_offers_iff holds).mp offered, fun level other =>
      strongest level ((mem_offers_iff holds).mpr other)⟩, ?_⟩
    refine Qos.level_inj (Nat.le_antisymm ?_ (greatest _ (List.mem_map_of_mem offered)))
    obtain ⟨source, held, rfl⟩ := List.mem_map.mp among
    have bound := strongest source held
    rw [Qos.level_weaker, Qos.level_weaker]
    omega

/-! ## One request after another -/

/-- A connected engine with a running loop that refuses nothing and grants what its deeds say. -/
structure Ready (past : List Deed) (u : Loopback) : Prop where
  willing : u.Willing
  running : u.receiver = .running
  connected : u.connected = true
  holds : Holds u.subscriptions (granted past)

namespace Ready

theorem carryOut_eq (ready : u.Ready past) (prompt : awaitsLoop cmd = false) :
    u.carryOut cmd = (u.record (.command cmd)).perform cmd := by
  simp [carryOut, answer, refusal?, Loopback.record, ready.willing.failures, prompt]

theorem record (ready : u.Ready past) (call : Call) : (u.record call).Ready past :=
  ⟨⟨ready.willing.failures, ready.willing.attached, ready.willing.kept⟩, ready.running, ready.connected,
    ready.holds⟩

/-- A request that is not carried out leaves everything as it is. -/
theorem refused (ready : u.Ready past) {d : Deed} (failed : d.reply.isSuccess = false) :
    u.Ready (past ++ [d]) ∧ Reported past [d] [] := by
  have unpublished : d.published? = none := by simp only [Deed.published?, failed]; split <;> rfl
  have unsubscribed : d.subscribed? = none := by simp only [Deed.subscribed?, failed]; split <;> rfl
  have unended : d.unsubscribed? = none := by simp only [Deed.unsubscribed?, failed]; split <;> rfl
  have mute (filter : String) : d.verdict? filter = none := by
    simp only [Deed.verdict?, failed]
    split <;> simp
  refine ⟨⟨ready.willing, ready.running, ready.connected, ?_⟩, by simp [unpublished], by simp [unsubscribed],
    by simp [unended], Routed.single (.silent unpublished)⟩
  rw [show granted (past ++ [d]) = granted past from funext fun filter => by
    rw [granted_concat, mute filter, Option.getD_none]]
  exact ready.holds

/-- A publish sends its acknowledgement, and behind it what the subscriptions select. -/
theorem publish_spec (kept : u.receiver ≠ .lost) (topic : String) (payload : ByteArray) (qos : Qos) :
    let r := u.publish topic payload qos
    r.1.isSuccess = true ∧ r.2.subscriptions = u.subscriptions ∧
      r.2.events = u.events ++ .publish r.1.id.toNat ::
        (u.delivery? topic qos).toList.map fun level =>
          .message ⟨r.1.id.toNat, some topic.toUTF8, some payload, level.level, false⟩ := by
  intro r
  have numbered (lastId : MessageId) (event : EngineEvent) :
      ({ u with lastId }.emit event).events = u.events ++ [event] ∧
        ({ u with lastId }.emit event).receiver ≠ .lost ∧
        ({ u with lastId }.emit event).subscriptions = u.subscriptions :=
    ⟨by rw [emit_events, if_neg kept]; rfl, by simpa using kept, by simp⟩
  have routed (lastId : MessageId) : { u with lastId }.delivery? topic qos = u.delivery? topic qos := rfl
  simp only [r, Loopback.publish, delivery?_emit, routed]
  cases u.delivery? topic qos with
  | none =>
    obtain ⟨events, -, subscriptions⟩ := numbered _ _
    exact ⟨rfl, subscriptions, events⟩
  | some level =>
    obtain ⟨events, kept, subscriptions⟩ := numbered _ _
    refine ⟨rfl, ?_, ?_⟩
    · rw [emit_subscriptions, subscriptions]
    · rw [emit_events, if_neg kept, events]
      simp

/-- A publish is acknowledged, and comes back if a filter for its topic was granted. -/
theorem publish (ready : u.Ready past) {topic : String} (usable : Topic.Name topic)
    (payload : ByteArray) (qos : Qos) (retain : Bool) :
    let r := u.carryOut (.publish topic payload qos retain)
    let d : Deed := ⟨.publish topic payload qos retain, r.1⟩
    r.1.isSuccess = true ∧ r.2.Ready (past ++ [d]) ∧
      ∃ sent, r.2.events = u.events ++ sent ∧ Reported past [d] (sent.filterMap EngineEvent.notice?) := by
  have topical : topic ≠ "" := by
    rintro rfl
    simp [Topic.Name, Topic.nameFault?, Topic.commonFault?] at usable
  have heard := ready.record (.command (.publish topic payload qos retain))
  have carried : u.carryOut (.publish topic payload qos retain) =
      (u.record (.command (.publish topic payload qos retain))).publish topic payload qos := by
    rw [ready.carryOut_eq rfl]
    exact if_pos ready.connected
  rw [carried]
  obtain ⟨success, subscriptions, events⟩ := publish_spec heard.willing.kept topic payload qos
  have alike := alike_publish heard.willing topic payload qos
  generalize (u.record (.command (.publish topic payload qos retain))).publish topic payload qos = r at *
  intro _ d
  have grants : granted (past ++ [d]) = granted past := funext fun filter => by
    rw [granted_concat, show d.verdict? filter = none from rfl, Option.getD_none]
  refine ⟨success, ⟨alike.willing heard.willing, alike.receiver.trans heard.running,
    alike.connected.trans heard.connected, ?_⟩, _, events, ?_⟩
  · rw [subscriptions, grants]
    exact ready.holds
  · rw [show (u.record (.command (.publish topic payload qos retain))).delivery? topic qos =
      u.delivery? topic qos from rfl]
    -- Every event that was sent is well-formed, so that its notice is the typed one.
    have acknowledged : (EngineEvent.publish r.1.id.toNat).notice? = some (.published r.1.id) := by
      simp [EngineEvent.notice?]
    have arrives (level : Qos) : (EngineEvent.message ⟨r.1.id.toNat, some topic.toByteArray, some payload,
        level.level, false⟩).notice? = some (.message ⟨r.1.id, topic, payload, level, false⟩) :=
      congrArg (Option.map Notice.message) (toMessage?_raw ⟨r.1.id, topic, payload, level, false⟩ topical)
    cases routed : u.delivery? topic qos with
    | none =>
      have told := Reported.of_publish payload qos retain success
        (.unheard (not_offered_of_delivery? ready.holds routed))
      simpa [List.filterMap_cons, acknowledged] using told
    | some level =>
      obtain ⟨best, strongest, rfl⟩ := exists_best_of_delivery? ready.holds routed
      have told := Reported.of_publish payload qos retain success (.heard success strongest)
      simpa [List.filterMap_cons, acknowledged, arrives] using told

/-- A change of the subscriptions is announced. -/
theorem resubscribed (ready : u.Ready past) {d : Deed} {subscriptions : List (String × Qos)}
    (holds : Holds subscriptions (granted (past ++ [d]))) (lastId : MessageId) (event : EngineEvent) :
    ({ u with lastId, subscriptions }.emit event).Ready (past ++ [d]) ∧
      ({ u with lastId, subscriptions }.emit event).events = u.events ++ [event] := by
  refine ⟨⟨⟨?_, ?_, ?_⟩, ?_, ?_, ?_⟩, ?_⟩
  · simpa using ready.willing.failures
  · simpa using ready.willing.attached
  · simpa using ready.willing.kept
  · simpa using ready.running
  · simpa using ready.connected
  · rwa [emit_subscriptions]
  · rw [emit_events, if_neg ready.willing.kept]
    rfl

/-- A subscription grants its filters. -/
theorem subscribe (ready : u.Ready past) (filters : List String) (qos : Qos) :
    let r := u.carryOut (.subscribe filters qos)
    let d : Deed := ⟨.subscribe filters qos, r.1⟩
    r.1.isSuccess = true ∧ r.2.Ready (past ++ [d]) ∧
      ∃ sent, r.2.events = u.events ++ sent ∧ Reported past [d] (sent.filterMap EngineEvent.notice?) := by
  have carried : u.carryOut (.subscribe filters qos) =
      (u.record (.command (.subscribe filters qos))).subscribe filters qos :=
    (ready.carryOut_eq rfl).trans (if_pos ready.connected)
  rw [carried]
  intro r d
  have success : d.reply.isSuccess = true := rfl
  have holds : Holds (filters.foldl (subscribed qos) u.subscriptions) (granted (past ++ [d])) := by
    rw [show granted (past ++ [d]) =
      fun filter => if filter ∈ filters then some qos else granted past filter from
        funext fun filter => by
          rw [granted_concat]
          by_cases among : filter ∈ filters <;> simp [Deed.verdict?, d, success, among]]
    exact ready.holds.foldl_subscribed qos filters
  obtain ⟨ready', events⟩ := (ready.record (.command (.subscribe filters qos))).resubscribed holds
    (nextId u.lastId) (.subscribe (nextId u.lastId).toNat filters.length
      (List.replicate filters.length (qos.level : Int)))
  refine ⟨rfl, ready', _, events, ?_⟩
  have told : (EngineEvent.subscribe (nextId u.lastId).toNat filters.length
      (List.replicate filters.length (qos.level : Int))).notice? =
        some (.subscribed r.1.id (filters.map fun _ => (qos.level : Int))) := by
    simp [EngineEvent.notice?, grantedPrefix, List.map_const', r, Loopback.subscribe, Loopback.record]
  simpa [told, List.filterMap_cons] using Reported.of_subscribe past filters qos success

/-- The end of a subscription takes back what its filter was granted. -/
theorem unsubscribe (ready : u.Ready past) (ended : String) :
    let r := u.carryOut (.unsubscribe ended)
    let d : Deed := ⟨.unsubscribe ended, r.1⟩
    r.1.isSuccess = true ∧ r.2.Ready (past ++ [d]) ∧
      ∃ sent, r.2.events = u.events ++ sent ∧ Reported past [d] (sent.filterMap EngineEvent.notice?) := by
  have carried : u.carryOut (.unsubscribe ended) =
      (u.record (.command (.unsubscribe ended))).unsubscribe ended :=
    (ready.carryOut_eq rfl).trans (if_pos ready.connected)
  rw [carried]
  intro r d
  have success : d.reply.isSuccess = true := rfl
  have holds : Holds (u.subscriptions.filter (·.1 != ended)) (granted (past ++ [d])) := by
    rw [show granted (past ++ [d]) = fun filter => if filter = ended then none else granted past filter from
      funext fun filter => by
        rw [granted_concat]
        by_cases same : filter = ended <;> simp [Deed.verdict?, d, success, same]]
    exact ready.holds.unsubscribed ended
  obtain ⟨ready', events⟩ := (ready.record (.command (.unsubscribe ended))).resubscribed holds
    (nextId u.lastId) (.unsubscribe (nextId u.lastId).toNat)
  refine ⟨rfl, ready', _, events, ?_⟩
  have told : (EngineEvent.unsubscribe (nextId u.lastId).toNat).notice? = some (.unsubscribed r.1.id) := by
    simp [EngineEvent.notice?, r, Loopback.unsubscribe, Loopback.record]
  simpa [told, List.filterMap_cons] using Reported.of_unsubscribe past ended success

/-- A request is carried out if it is usable, and refused otherwise. -/
theorem deed (ready : u.Ready past) (c : Config) {op : Operation} (message : op.isMessage = true) :
    let a := u.answers (op.task c)
    let d : Deed := ⟨op, (op.task c).reply a⟩
    let w := u.played ((op.task c).block a)
    d.reply.isSuccess = op.isUsable ∧ w.Ready (past ++ [d]) ∧
      ∃ sent, w.events = u.events ++ sent ∧ Reported past [d] (sent.filterMap EngineEvent.notice?) := by
  have unheard {r : Reply} (failed : r.isSuccess = false) :
      u.Ready (past ++ [⟨op, r⟩]) ∧ ∃ sent, u.events = u.events ++ sent ∧
        Reported past [⟨op, r⟩] (sent.filterMap EngineEvent.notice?) := by
    obtain ⟨ready', silent⟩ := ready.refused (d := ⟨op, r⟩) failed
    exact ⟨ready', [], (List.append_nil _).symm, silent⟩
  -- A request that is not usable is refused before the engine hears of it.
  cases op with
  | publish topic payload qos retain =>
    by_cases usable : Topic.nameFault? topic = none
    · have carried := ready.publish usable payload qos retain
      simpa [Operation.task, Task.block, Task.reply, Operation.isUsable, usable, answers, Task.opening,
        played] using carried
    · have faulty : (Topic.nameFault? topic).isSome = true := Option.isSome_iff_ne_none.mpr usable
      have failed : (Reply.ofStatus .inval).isSuccess = false := rfl
      simpa [Operation.task, Task.block, Task.reply, Operation.isUsable, faulty, usable, failed, played]
        using unheard failed
  | subscribe filters qos =>
    by_cases usable : subscribable filters = true
    · have carried := ready.subscribe filters qos
      simpa [Operation.task, Task.block, Task.reply, Operation.isUsable, usable, answers, Task.opening,
        played] using carried
    · have failed : (Reply.ofStatus .inval).isSuccess = false := rfl
      simpa [Operation.task, Task.block, Task.reply, Operation.isUsable, usable, failed, played]
        using unheard failed
  | unsubscribe filter =>
    by_cases usable : Topic.filterFault? filter = none
    · have carried := ready.unsubscribe filter
      simpa [Operation.task, Task.block, Task.reply, Operation.isUsable, usable, answers, Task.opening,
        played] using carried
    · have faulty : (Topic.filterFault? filter).isSome = true := Option.isSome_iff_ne_none.mpr usable
      have failed : (Reply.ofStatus .inval).isSuccess = false := rfl
      simpa [Operation.task, Task.block, Task.reply, Operation.isUsable, faulty, usable, failed, played]
        using unheard failed
  | _ => cases message

/-- Requests that are done one after another, and what an application is told about them. -/
theorem deeds (ready : u.Ready past) (c : Config) {ops : List Operation}
    (messages : ∀ op ∈ ops, op.isMessage = true) (ticket : Nat) :
    let tally := u.tally ((ops.zipIdx ticket).map fun (op, k) => ⟨some k, op.task c⟩)
    ∃ (deeds : List Deed) (sent : List EngineEvent), deeds.map Deed.asked = ops ∧
      (∀ i, (tally.filterMap fun d => d.1.outcome? d.2).lookup (ticket + i) =
        deeds[i]?.map fun d => .answered d.reply) ∧
      (∀ d ∈ deeds, d.reply.isSuccess = d.asked.isUsable) ∧
      (u.played (tally.flatMap fun d => d.1.task.block d.2)).receiver = .running ∧
      (u.played (tally.flatMap fun d => d.1.task.block d.2)).events = u.events ++ sent ∧
      Reported past deeds (sent.filterMap EngineEvent.notice?) := by
  -- By induction on the requests: each leaves an engine that is ready for the next one, with one more ticket drawn.
  induction ops generalizing u past ticket with
  | nil =>
    exact ⟨[], [], rfl, fun i => rfl, nofun, ready.running, (List.append_nil _).symm, .nil past⟩
  | cons op ops ih =>
    obtain ⟨usable, ready', sent, events, told⟩ := ready.deed c (messages op List.mem_cons_self)
    obtain ⟨deeds, later, asked, settled, usable', running, events', told'⟩ :=
      ih ready' (fun op among => messages op (List.mem_cons_of_mem _ among)) (ticket + 1)
    refine ⟨⟨op, (op.task c).reply (u.answers (op.task c))⟩ :: deeds, sent ++ later, ?_, ?_, ?_, ?_, ?_, ?_⟩
    · rw [List.map_cons, asked]
    · intro i
      cases i with
      | zero => simp [tally, Job.outcome?]
      | succ i =>
        have other : (ticket + (i + 1) == ticket) = false := beq_false_of_ne (by omega)
        have behind := settled i
        rw [show ticket + 1 + i = ticket + (i + 1) by omega] at behind
        simpa [tally, Job.outcome?, List.lookup_cons, other] using behind
    · exact List.forall_mem_cons.mpr ⟨usable, usable'⟩
    · rw [List.zipIdx_cons, List.map_cons, tally, List.flatMap_cons, played_append]
      exact running
    · rw [List.zipIdx_cons, List.map_cons, tally, List.flatMap_cons, played_append]
      exact events'.trans (by rw [events, List.append_assoc])
    · rw [List.filterMap_append]
      exact told.cons told'

end Ready

end Loopback

end BrokerSession
