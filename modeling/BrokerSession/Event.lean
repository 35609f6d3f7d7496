import BrokerSession.Message
import BrokerSession.Reason

/-!
# What an engine reports

An engine reports what happens on its connection as events made of plain integers and bytes. Before an
application hears of one it becomes a typed message; whatever does not become one is dropped.

## Main definitions

* `Inbound` - an arriving message as the engine reports it
* `EngineEvent` - everything an engine may report
* `messageId?` - the message number an integer stands for
* `Inbound.toMessage?` - the typed message, if every part of it is usable
* `grantedPrefix` - the granted levels that an acknowledgement really carries

## Main results

* `toMessage?_raw` - a typed message with a topic survives the way through its raw form
-/

namespace BrokerSession

/-- An arriving message as the engine reports it. -/
structure Inbound where
  id : Int
  /-- The bytes of the topic; absent when the engine could not provide them. -/
  topic : Option ByteArray
  payload : Option ByteArray
  qos : Int
  retain : Bool
  deriving DecidableEq

/-- Everything an engine may report. -/
inductive EngineEvent where
  /-- The broker answered a connect request. -/
  | connect (code : Int)
  /-- The connection ended; `0` when the client asked for it. -/
  | disconnect (code : Int)
  /-- A publish completed the handshake of its guarantee. -/
  | publish (id : Int)
  /-- A message arrived. -/
  | message (raw : Inbound)
  /-- The broker answered a subscription; the first `count` granted levels are meaningful. -/
  | subscribe (id : Int) (count : Nat) (granted : List Int)
  /-- The broker answered the end of a subscription. -/
  | unsubscribe (id : Int)
  deriving DecidableEq

/-- The message number an integer stands for: one that fits two bytes. -/
def messageId? (raw : Int) : Option MessageId :=
  if 0 ≤ raw ∧ raw < 65536 then some (UInt16.ofNat raw.toNat) else none

/-- The levels that were granted: the first `count`, or all that there are. -/
def grantedPrefix (count : Nat) (granted : List Int) : List Int := granted.take count

/-- The typed message behind a raw one; `none` when a required part is unusable. -/
def Inbound.toMessage? (raw : Inbound) : Option Message := do
  let topic ← String.fromUTF8? (← raw.topic)
  if topic.isEmpty then none
  else
    let id ← messageId? raw.id
    let qos ← Qos.ofLevel? raw.qos
    return ⟨id, topic, raw.payload.getD .empty, qos, raw.retain⟩

/-- The raw form in which an engine reports a typed message. -/
def Message.raw (m : Message) : Inbound :=
  ⟨m.id.toNat, some m.topic.toByteArray, some m.payload, m.qos.level, m.retain⟩

@[simp] theorem messageId?_toNat (id : MessageId) : messageId? (id.toNat : Int) = some id := by
  have h := id.toNat_lt_size
  simp only [UInt16.size] at h
  simp [messageId?]
  omega

/-- The text of a string's own bytes is the string. -/
@[simp] theorem fromUTF8?_toByteArray (s : String) : String.fromUTF8? s.toByteArray = some s := by
  unfold String.fromUTF8?
  split
  · rfl
  · exact absurd s.isValidUTF8 ‹_›

/-- A typed message with a topic survives the way through its raw form. -/
theorem toMessage?_raw (m : Message) (h : m.topic ≠ "") : m.raw.toMessage? = some m := by
  simp [Inbound.toMessage?, Message.raw, h]

end BrokerSession
