import BrokerSession.Network.Loop
import BrokerSession.Session.Listener

/-!
# Applications hear of the traffic as it is

An engine reports the packets of a broker as plain integers and bytes, and a listener reads typed notices back from
them. The two translations know nothing of each other, and yet nothing is lost between them: an application is told
about every packet that is reported, once and as it was, and what it is not told about are messages without a topic.

## Main definitions

* `Listener.wants` - whether an application asked for a notice
* `Listener.told` - what it is told about an outcome

## Main results

* `Listener.told_eq` - what an application is told is what there is to tell, as far as it asked for it
* `notice?_eq_none_iff` - the only reported events that come to nothing are messages without a topic
* `Listener.told_of_traffic` - what an application hears of every kind of packet
-/

namespace BrokerSession

/-! ## What there is to tell -/

/-- The levels of a subscription stand in the order of its results: one that was granted has the level of its
guarantee, and one that was refused the level of a refusal. -/
theorem getElem?_resultLevel {results : List (Option Qos)} {i : Nat} {result : Option Qos}
    (stands : results[i]? = some result) :
    (results.map resultLevel)[i]? = some (result.elim refusedLevel fun qos => qos.level) := by
  rw [List.getElem?_map, stands]
  cases result <;> rfl

/-- The event of an arriving message with a topic is read as that message. -/
theorem notice?_message (m : Message) (named : m.topic ≠ "") :
    (EngineEvent.message m.raw).notice? = some (.message m) := by
  rw [EngineEvent.notice?, toMessage?_raw m named, Option.map_some]

/-- The event of a message without a topic is read as nothing. -/
theorem notice?_unnamed (m : Message) (unnamed : m.topic = "") :
    (EngineEvent.message m.raw).notice? = none := by
  have unread : m.raw.toMessage? = none := by
    simp only [Inbound.toMessage?, Message.raw, Option.bind_eq_bind, Option.bind_some, fromUTF8?_toByteArray]
    exact if_pos (by simp [unnamed])
  rw [EngineEvent.notice?, unread, Option.map_none]

section Numbered

variable {raw : Int} {id : MessageId}

theorem notice?_publish (stands : messageId? raw = some id) :
    (EngineEvent.publish raw).notice? = some (.published id) := by
  rw [EngineEvent.notice?, stands, Option.map_some]

theorem notice?_unsubscribe (stands : messageId? raw = some id) :
    (EngineEvent.unsubscribe raw).notice? = some (.unsubscribed id) := by
  rw [EngineEvent.notice?, stands, Option.map_some]

theorem notice?_subscribe (stands : messageId? raw = some id) (count : Nat) (granted : List Int) :
    (EngineEvent.subscribe raw count granted).notice? =
      some (.subscribed id (grantedPrefix count granted)) := by
  rw [EngineEvent.notice?, stands, Option.map_some]

end Numbered

/-- An acknowledgement that says how many levels it carries is read with all of them. -/
theorem notice?_granted (id : MessageId) (results : List (Option Qos)) :
    (EngineEvent.subscribe id.toNat results.length (results.map resultLevel)).notice? =
      some (.subscribed id (results.map resultLevel)) := by
  rw [notice?_subscribe (messageId?_toNat id), grantedPrefix,
    List.take_of_length_le (Nat.le_of_eq (List.length_map ..))]

/-- Of everything that is reported, only a message without a topic comes to nothing. -/
theorem notice?_eq_none_iff {o : Outcome} {e : EngineEvent} (reported : o.event? = some e) :
    e.notice? = none ↔
      ∃ qos id retain dup payload, o = .arrived (.publish "" qos id retain dup payload) := by
  cases o with
  | arrived p =>
    cases p with
    | publish topic qos id retain dup payload =>
      obtain rfl := Option.some.inj reported
      by_cases named : topic = ""
      · subst named
        exact iff_of_true (notice?_unnamed ⟨id, "", payload, qos, retain⟩ rfl) ⟨_, _, _, _, _, rfl⟩
      · have read := notice?_message ⟨id, topic, payload, qos, retain⟩ named
        simp only [Message.raw] at read
        simp [read, named]
    | subAck id results =>
      obtain rfl := Option.some.inj reported
      simp [notice?_granted]
    | pubAck id | pubComp id =>
      obtain rfl := Option.some.inj reported
      simp [notice?_publish (messageId?_toNat id)]
    | unsubAck id =>
      obtain rfl := Option.some.inj reported
      simp [notice?_unsubscribe (messageId?_toNat id)]
    | connAck | disconnect =>
      obtain rfl := Option.some.inj reported
      simp [EngineEvent.notice?]
    | _ => cases reported
  | written w =>
    cases w with
    | publish id =>
      change (if id = 0 then some (EngineEvent.publish 0) else none) = some e at reported
      -- Nothing but the number 0 is reported, and that is the number of a message too.
      obtain rfl : EngineEvent.publish 0 = e := by
        by_cases zero : id = 0
        · rw [if_pos zero] at reported
          exact Option.some.inj reported
        · rw [if_neg zero] at reported
          cases reported
      have read : (EngineEvent.publish 0).notice? = some (.published 0) :=
        notice?_publish (messageId?_toNat 0)
      simp [read]
    | disconnect =>
      obtain rfl := Option.some.inj reported
      simp [EngineEvent.notice?]
    | _ => cases reported
  | failed error =>
    obtain rfl := Option.some.inj reported
    cases error <;> simp [LinkError.event, EngineEvent.notice?]

/-! ## What an application is told -/

namespace Listener

variable {l : Listener} {s : Standing}

/-- Whether the application asked for a notice. -/
def wants (l : Listener) (n : Notice) : Bool := l.wanted.contains n.kind

/-- What the application is told about an outcome, when the events it is reported as reach the listener. -/
def told (l : Listener) (s : Standing) (o : Outcome) : List Notice :=
  (o.event?.bind fun e => (l.handle s e).2).toList

/-- An application is told what there is to tell, as far as it asked for it. -/
theorem told_eq (o : Outcome) :
    l.told s o = (o.event?.bind EngineEvent.notice?).toList.filter l.wants := by
  unfold told
  cases o.event? with
  | none => rfl
  | some e =>
    change (l.tell? e).toList = e.notice?.toList.filter l.wants
    change (e.notice?.filter l.wants).toList = _
    cases e.notice? with
    | none => rfl
    | some n => cases asked : l.wants n <;> simp [Option.filter, asked]

theorem told_of_notice {o : Outcome} {e : EngineEvent} {n : Notice} (reported : o.event? = some e)
    (read : e.notice? = some n) : l.told s o = [n].filter l.wants := by
  rw [told_eq, reported, Option.bind_some, read, Option.toList_some]

/-- Nothing that a broker sends is lost or altered on its way to the application. A message with a topic is told
once, with its number, topic, payload, guarantee and retain flag. An answered subscription is told once, with its
number and a level for each of its results, in their order: that of the guarantee where it was granted, and `0x80`
where it was refused. An acknowledged publish, or end of a subscription, is told once with its number. And for an
application that asks for everything nothing that is reported is dropped, but messages without a topic. -/
theorem told_of_traffic (l : Listener) (s : Standing) :
    (∀ topic qos id retain dup payload, topic ≠ "" →
      l.told s (.arrived (.publish topic qos id retain dup payload)) =
        [Notice.message ⟨id, topic, payload, qos, retain⟩].filter l.wants) ∧
    (∀ id results, ∃ granted : List Int,
      l.told s (.arrived (.subAck id results)) = [Notice.subscribed id granted].filter l.wants ∧
      granted.length = results.length ∧
      (∀ (i : Nat) (qos : Qos), results[i]? = some (some qos) → granted[i]? = some (qos.level : Int)) ∧
      ∀ i : Nat, results[i]? = some none → granted[i]? = some 0x80) ∧
    (∀ id, l.told s (.arrived (.pubAck id)) = [Notice.published id].filter l.wants ∧
      l.told s (.arrived (.pubComp id)) = [Notice.published id].filter l.wants ∧
      l.told s (.arrived (.unsubAck id)) = [Notice.unsubscribed id].filter l.wants) ∧
    ((∀ kind, kind ∈ l.wanted) → ∀ o : Outcome, o.event?.isSome = true →
      (l.told s o = [] ↔
        ∃ qos id retain dup payload, o = .arrived (.publish "" qos id retain dup payload))) := by
  refine ⟨?_, ?_, fun id => ⟨?_, ?_, ?_⟩, ?_⟩
  · intro topic qos id retain dup payload named
    exact told_of_notice rfl (notice?_message ⟨id, topic, payload, qos, retain⟩ named)
  · intro id results
    refine ⟨results.map resultLevel, told_of_notice rfl (notice?_granted id results), List.length_map .., ?_, ?_⟩
    · intro i qos granted
      exact getElem?_resultLevel granted
    · intro i refused
      exact getElem?_resultLevel refused
  · exact told_of_notice rfl (notice?_publish (messageId?_toNat id))
  · exact told_of_notice rfl (notice?_publish (messageId?_toNat id))
  · exact told_of_notice rfl (notice?_unsubscribe (messageId?_toNat id))
  · intro everything o reported
    obtain ⟨e, reported⟩ := Option.isSome_iff_exists.mp reported
    rw [← notice?_eq_none_iff reported, told_eq, reported, Option.bind_some]
    -- For whoever asks for everything the filter drops nothing, so only reading an event can.
    have kept : e.notice?.toList.filter l.wants = e.notice?.toList :=
      List.filter_eq_self.mpr fun n _ => by simp [wants, everything n.kind]
    rw [kept, Option.toList_eq_nil_iff]

/-- A retained message whose bytes are no text, a subscription of which one of two filters was refused, and a message
without a topic, as an application hears of them that asks for everything. -/
theorem told_of_traffic_refused :
    let l : Listener := ⟨"sensor", Notice.Kind.all, true⟩
    "sensors/t1" ≠ "" ∧ (∀ kind, kind ∈ l.wanted) ∧
      l.told default (.arrived (.publish "sensors/t1" .atLeastOnce 12 true false ⟨#[0, 255]⟩)) =
        [.message ⟨12, "sensors/t1", ⟨#[0, 255]⟩, .atLeastOnce, true⟩] ∧
      l.told default (.arrived (.subAck 7 [some .exactlyOnce, none])) = [.subscribed 7 [2, 0x80]] ∧
      l.told default (.arrived (.publish "" .atMostOnce 0 false false .empty)) = [] := by
  intro l
  have named : "sensors/t1" ≠ "" := by decide
  have everything : ∀ kind, kind ∈ l.wanted := fun kind => by cases kind <;> decide
  obtain ⟨messages, subscriptions, -, dropped⟩ := told_of_traffic l default
  refine ⟨named, everything, ?_, ?_, ?_⟩
  · rw [messages "sensors/t1" .atLeastOnce 12 true false ⟨#[0, 255]⟩ named]
    rfl
  · obtain ⟨granted, heard, long, levels, refused⟩ := subscriptions 7 [some .exactlyOnce, none]
    have both : granted = [2, 0x80] := by
      match granted, long with
      | [first, second], _ =>
        have exact : first = 2 := Option.some.inj (levels 0 .exactlyOnce rfl)
        have none : second = 0x80 := Option.some.inj (refused 1 rfl)
        rw [exact, none]
    rw [heard, both]
    rfl
  · exact (dropped everything _ rfl).mpr ⟨_, _, _, _, _, rfl⟩

end Listener

end BrokerSession
