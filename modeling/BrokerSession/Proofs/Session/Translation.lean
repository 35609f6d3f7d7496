import BrokerSession.Proofs.Session.Listening

/-!
# Arriving messages and their raw forms

An engine reports an arriving message as integers and bytes, and an application hears of it as a typed message. The two
say the same: a typed message has one raw form, and a raw message that is translated is the raw form of its translation,
except that a raw message may lack a payload where the raw form of a typed one carries an empty payload. So nothing is
read from a raw message but what stands in it, nothing is lost on the way, and the messages that are not translated are
those without a usable topic, number or guarantee.

## Main definitions

* `Inbound.Usable` - a raw message with a usable topic, number and guarantee
* `Inbound.filled` - the raw message with a payload, the empty one if it had none

## Main results

* `toMessage?_eq_some_iff_raw` - a raw message is translated to the message whose raw form it is, up to its payload
* `isSome_toMessage?_iff` - the translated messages are the usable ones
* `Inbound.toMessage?_of_parts` - everything about the translation of a raw message
-/

namespace BrokerSession

/-- A raw message whose parts can all be used: its topic is there, is not empty and is text in UTF-8, its number fits
two bytes, and its guarantee is one of the three levels. -/
structure Inbound.Usable (raw : Inbound) : Prop where
  topic : ∃ bytes, raw.topic = some bytes ∧ bytes ≠ .empty ∧ bytes.IsValidUTF8
  id : 0 ≤ raw.id ∧ raw.id ≤ 65535
  qos : 0 ≤ raw.qos ∧ raw.qos ≤ 2

namespace Inbound

variable {raw other : Inbound} {m : Message}

/-- The raw message with an empty payload in the place of an absent one. -/
def filled (raw : Inbound) : Inbound := { raw with payload := some (raw.payload.getD .empty) }

/-- Two raw messages with the same filled form differ in nothing but whether an empty payload is written out. -/
theorem filled_eq_filled_iff :
    other.filled = raw.filled ↔
      other.id = raw.id ∧ other.topic = raw.topic ∧ other.payload.getD .empty = raw.payload.getD .empty ∧
        other.qos = raw.qos ∧ other.retain = raw.retain := by
  simp [filled]

/-- The usable topics are the names that are not empty. -/
theorem exists_name_iff {topic : Option ByteArray} :
    (∃ name : String, name ≠ "" ∧ topic = some name.toByteArray) ↔
      ∃ bytes, topic = some bytes ∧ bytes ≠ .empty ∧ bytes.IsValidUTF8 := by
  constructor
  · rintro ⟨name, named, rfl⟩
    exact ⟨_, rfl, fun unwritten => named (String.toByteArray_eq_empty_iff.mp unwritten), name.isValidUTF8⟩
  · rintro ⟨bytes, rfl, written, valid⟩
    refine ⟨.ofByteArray bytes valid, ?_, rfl⟩
    intro unnamed
    exact written (String.toByteArray_eq_empty_iff.mpr unnamed)

/-- A raw message is translated to the message whose raw form it is once its payload is written out. -/
theorem toMessage?_eq_some_iff_raw : raw.toMessage? = some m ↔ m.topic ≠ "" ∧ m.raw = raw.filled := by
  rw [toMessage?_eq_some_iff]
  constructor
  · rintro ⟨⟩
    rename_i id topic payload qos retain named
    exact ⟨named, rfl⟩
  · rintro ⟨named, same⟩
    obtain ⟨id, topic, payload, qos, retain⟩ := m
    obtain ⟨number, bytes, content, level, kept⟩ := raw
    simp only [Message.raw, filled, Inbound.mk.injEq, Option.some.injEq] at same
    obtain ⟨rfl, rfl, rfl, rfl, rfl⟩ := same
    exact .message id topic content qos retain named

/-- The messages that are translated are the usable ones. -/
theorem isSome_toMessage?_iff : raw.toMessage?.isSome ↔ raw.Usable := by
  simp only [Option.isSome_iff_exists, toMessage?_eq_some_iff_raw]
  constructor
  · rintro ⟨m, named, same⟩
    simp only [Message.raw, filled, Inbound.mk.injEq] at same
    obtain ⟨numbered, titled, -, graded, -⟩ := same
    exact ⟨exists_name_iff.mp ⟨m.topic, named, titled.symm⟩, exists_messageId_iff.mp ⟨m.id, numbered.symm⟩,
      exists_qos_iff.mp ⟨m.qos, graded.symm⟩⟩
  · rintro ⟨titled, numbered, graded⟩
    obtain ⟨topic, named, titled⟩ := exists_name_iff.mpr titled
    obtain ⟨id, numbered⟩ := exists_messageId_iff.mpr numbered
    obtain ⟨qos, graded⟩ := exists_qos_iff.mpr graded
    refine ⟨⟨id, topic, raw.payload.getD .empty, qos, raw.retain⟩, named, ?_⟩
    simp only [Message.raw, filled, numbered, titled, graded]

/-- Everything about the translation of a raw message. It is translated exactly if its topic is there, not empty and
UTF-8, its number is one of two bytes and its guarantee one of three levels. The typed message then has these very
values, the bytes of the payload, none if it is absent, and the same retain flag, and its raw form is the raw message
with the payload written out. A typed message with a topic comes back from its raw form, and another raw message is
translated to the same message exactly if it agrees in everything but whether an empty payload is written out. -/
theorem toMessage?_of_parts (raw : Inbound) :
    (raw.toMessage?.isSome ↔ raw.Usable) ∧
    (∀ m, raw.toMessage? = some m →
      (m.id.toNat = raw.id ∧ some m.topic.toByteArray = raw.topic ∧ m.payload = raw.payload.getD .empty ∧
        m.qos.level = raw.qos ∧ m.retain = raw.retain) ∧
      m.raw = { raw with payload := some (raw.payload.getD .empty) } ∧
      ∀ other : Inbound, other.toMessage? = some m ↔
        other.id = raw.id ∧ other.topic = raw.topic ∧ other.payload.getD .empty = raw.payload.getD .empty ∧
          other.qos = raw.qos ∧ other.retain = raw.retain) ∧
    ∀ m : Message, m.topic ≠ "" → m.raw.toMessage? = some m := by
  refine ⟨isSome_toMessage?_iff, ?_, toMessage?_raw⟩
  intro m translated
  obtain ⟨named, same⟩ := toMessage?_eq_some_iff_raw.mp translated
  have parts := same
  simp only [Message.raw, filled, Inbound.mk.injEq, Option.some.injEq] at parts
  refine ⟨parts, same, fun other => ?_⟩
  -- The other one has the raw form of the same message, so the two have the same filled form.
  rw [toMessage?_eq_some_iff_raw, same, and_iff_right named, eq_comm, filled_eq_filled_iff]

/-- A reading without a payload is translated like the same with an empty payload; with a guarantee that does not exist
it is not translated. -/
theorem toMessage?_of_parts_silent :
    let reading : Inbound := ⟨7, some "a/b".toByteArray, none, 1, false⟩
    let told : Message := ⟨7, "a/b", .empty, .atLeastOnce, false⟩
    reading.toMessage? = some told ∧ told.raw.toMessage? = some told ∧
      ({ reading with payload := some .empty } : Inbound).toMessage? = some told ∧
      ¬ ({ reading with qos := 3 } : Inbound).toMessage?.isSome := by
  intro reading told
  have named : told.topic ≠ "" := by decide
  have translated : reading.toMessage? = some told := toMessage?_eq_some_iff_raw.mpr ⟨named, rfl⟩
  obtain ⟨-, translation, back⟩ := toMessage?_of_parts reading
  obtain ⟨-, -, same⟩ := translation told translated
  refine ⟨translated, back told named, (same _).mpr ⟨rfl, rfl, rfl, rfl, rfl⟩, ?_⟩
  rw [(toMessage?_of_parts _).1]
  rintro ⟨-, -, -, top⟩
  exact absurd top (by decide)

end Inbound

end BrokerSession
