import BrokerSession.Proofs.Session.Listening
import BrokerSession.Proofs.Text.Utf8

/-!
# Payloads to look at

The payload of a message is bytes, and is shown as text. Where the bytes are a text it is that text, and otherwise they
are written out in hexadecimal. Either can be read back, so two payloads that are both texts, or both not, are shown
alike only if they are the same. (A text can look like the digits of some other payload.)

## Main definitions

* `Hex.lowercase` - the digits that bytes are written in

## Main results

* `Hex.eq_encodeList_of_decodeList?` - digits that can be read are the ones that the bytes are written in
* `Message.payloadDisplay_of_bytes` - what is shown of the payload of a message
-/

namespace BrokerSession

namespace Hex

/-- The digits that bytes are written in. -/
def lowercase : List Char := "0123456789abcdef".toList

theorem mem_lowercase_iff {c : Char} : c ∈ lowercase ↔ ∃ n, n < 16 ∧ digit n = c := by
  have digits : lowercase = (List.range 16).map digit := by decide
  simp only [digits, List.mem_map, List.mem_range]

/-- Bytes are written in lowercase digits. -/
theorem mem_lowercase_of_mem_encodeList {bytes : List UInt8} {c : Char} (written : c ∈ encodeList bytes) :
    c ∈ lowercase := by
  obtain ⟨b, -, digits⟩ := List.mem_flatMap.mp written
  have bound := b.toNat_lt_size
  rw [UInt8.size] at bound
  rcases List.mem_pair.mp digits with rfl | rfl
  · exact mem_lowercase_iff.mpr ⟨_, by omega, rfl⟩
  · exact mem_lowercase_iff.mpr ⟨_, by omega, rfl⟩

/-- Lowercase digits that can be read are the ones that the bytes are written in. -/
theorem eq_encodeList_of_decodeList? {text : List Char} {bytes : List UInt8} (lower : ∀ c ∈ text, c ∈ lowercase)
    (read : decodeList? text = some bytes) : text = encodeList bytes := by
  fun_induction decodeList? text generalizing bytes with
  | case1 =>
    cases read
    rfl
  | case2 high low rest ih =>
    simp only [List.forall_mem_cons] at lower
    obtain ⟨upper, lower, others⟩ := lower
    obtain ⟨h, hh, rfl⟩ := mem_lowercase_iff.mp upper
    obtain ⟨l, hl, rfl⟩ := mem_lowercase_iff.mp lower
    simp only [value?_digit hh, value?_digit hl, Option.bind_eq_bind, Option.bind_some, Option.bind_eq_some_iff,
      Option.pure_def, Option.some.injEq] at read
    obtain ⟨tail, decoded, rfl⟩ := read
    have byte : (UInt8.ofNat (16 * h + l)).toNat = 16 * h + l := by
      rw [UInt8.toNat_ofNat']
      omega
    have halves : (16 * h + l) / 16 = h ∧ (16 * h + l) % 16 = l := by omega
    have first : encodeByte (UInt8.ofNat (16 * h + l)) = [digit h, digit l] := by
      rw [encodeByte, byte, halves.1, halves.2]
    calc
      digit h :: digit l :: rest = [digit h, digit l] ++ encodeList tail := by rw [ih others decoded]; rfl
      _ = encodeList (UInt8.ofNat (16 * h + l) :: tail) := by rw [← first]; rfl
  | case3 => cases read

/-- What bytes are written as are the lowercase digits that are read back as them. -/
theorem eq_encode_iff {text : String} {bytes : ByteArray} :
    text = encode bytes ↔ (∀ c ∈ text.toList, c ∈ lowercase) ∧ decode? text = some bytes := by
  constructor
  · rintro rfl
    rw [encode, decode?, String.toList_ofList, decodeList?_encodeList]
    exact ⟨fun c => mem_lowercase_of_mem_encodeList, rfl⟩
  · rintro ⟨lower, read⟩
    obtain ⟨list, digits, rfl⟩ := Option.map_eq_some_iff.mp read
    rw [encode, ← eq_encodeList_of_decodeList? lower digits, String.ofList_toList]

/-- A byte takes two digits. -/
theorem length_encode (bytes : ByteArray) : (encode bytes).length = 2 * bytes.size := by
  rw [encode, String.length_ofList, length_encodeList, Array.length_toList]
  rfl

end Hex

namespace Message

variable {m other : Message}

theorem payloadText?_eq_some_iff {text : String} : m.payloadText? = some text ↔ text.toByteArray = m.payload := by
  rw [payloadText?, Payload.text?, fromUTF8?_eq_some_iff, eq_comm]

/-- A payload that is a text is shown as this text. -/
theorem exists_payloadText (formed : Utf8.WellFormed m.payload.data.toList) :
    ∃ text : String, m.payloadText? = some text ∧ m.payloadDisplay = text := by
  have read : m.payloadText? = some (.ofByteArray m.payload (Utf8.wellFormed_iff.mp formed)) :=
    payloadText?_eq_some_iff.mpr rfl
  refine ⟨_, read, ?_⟩
  rw [payloadText?] at read
  rw [payloadDisplay, Payload.display, read, Option.getD_some]

/-- A payload that is no text is written out in hexadecimal. -/
theorem payloadText?_eq_none (malformed : ¬ Utf8.WellFormed m.payload.data.toList) :
    m.payloadText? = none ∧ m.payloadDisplay = Hex.encode m.payload := by
  have unread : m.payloadText? = none := by
    refine Option.eq_none_iff_forall_ne_some.mpr fun text read => malformed ?_
    rw [Utf8.wellFormed_iff, ← payloadText?_eq_some_iff.mp read]
    exact text.isValidUTF8
  refine ⟨unread, ?_⟩
  rw [payloadText?] at unread
  rw [payloadDisplay, Payload.display, unread, Option.getD_none]

/-- Two payloads that are both texts, or both not, are shown alike only if they are the same. -/
theorem payload_eq_of_payloadDisplay_eq
    (alike : Utf8.WellFormed m.payload.data.toList ↔ Utf8.WellFormed other.payload.data.toList)
    (shown : m.payloadDisplay = other.payloadDisplay) : m.payload = other.payload := by
  by_cases formed : Utf8.WellFormed m.payload.data.toList
  · obtain ⟨text, read, rfl⟩ := exists_payloadText formed
    obtain ⟨text, read', rfl⟩ := exists_payloadText (alike.mp formed)
    rw [← payloadText?_eq_some_iff.mp read, shown, payloadText?_eq_some_iff.mp read']
  · rw [(payloadText?_eq_none formed).2, (payloadText?_eq_none (alike.not.mp formed)).2] at shown
    have back := (Hex.eq_encode_iff.mp shown).2
    rw [(Hex.eq_encode_iff.mp rfl).2] at back
    exact Option.some.inj back

/-- What is shown of the payload of a message. If its bytes are a text, the payload is read as the one text with these
bytes, and this text is shown. Otherwise it is not read, and what is shown are the lowercase digits, two for a byte,
that are read back as its bytes; no other lowercase digits are. So two messages with payloads that are both texts, or
both not, are shown alike exactly if their payloads are the same. -/
theorem payloadDisplay_of_bytes (m : Message) :
    (Utf8.WellFormed m.payload.data.toList →
      ∃ text : String, (∀ t : String, t.toByteArray = m.payload ↔ t = text) ∧ m.payloadText? = some text ∧
        m.payloadDisplay = text) ∧
    (¬ Utf8.WellFormed m.payload.data.toList →
      m.payloadText? = none ∧ m.payloadDisplay.length = 2 * m.payload.size ∧
        ∀ t : String, t = m.payloadDisplay ↔ (∀ c ∈ t.toList, c ∈ Hex.lowercase) ∧ Hex.decode? t = some m.payload) ∧
    ∀ other : Message, (Utf8.WellFormed m.payload.data.toList ↔ Utf8.WellFormed other.payload.data.toList) →
      (m.payloadDisplay = other.payloadDisplay ↔ m.payload = other.payload) := by
  refine ⟨fun formed => ?_, fun malformed => ?_,
    fun other alike => ⟨payload_eq_of_payloadDisplay_eq alike, fun same => ?_⟩⟩
  · obtain ⟨text, read, shown⟩ := exists_payloadText formed
    refine ⟨text, fun t => ?_, read, shown⟩
    rw [← payloadText?_eq_some_iff, read, Option.some.injEq, eq_comm]
  · obtain ⟨unread, shown⟩ := payloadText?_eq_none malformed
    rw [shown]
    exact ⟨unread, Hex.length_encode m.payload, fun t => Hex.eq_encode_iff⟩
  · rw [payloadDisplay, payloadDisplay, same]

/-- A greeting is shown as it is. A surrogate, a null in two bytes and a character that is cut off are no texts, and are
shown in their digits. -/
theorem payloadDisplay_of_bytes_malformed :
    let message (payload : ByteArray) : Message := ⟨1, "t", payload, .atLeastOnce, false⟩
    let greeting := message "grüß".toByteArray
    let surrogate := message ⟨#[0xED, 0xA0, 0x80]⟩
    let null := message ⟨#[0xC0, 0x80]⟩
    let cut := message ⟨#[0xE2, 0x82]⟩
    greeting.payloadDisplay = "grüß" ∧
      surrogate.payloadText? = none ∧ surrogate.payloadDisplay = "eda080" ∧
      null.payloadText? = none ∧ null.payloadDisplay = "c080" ∧ null.payloadDisplay ≠ cut.payloadDisplay := by
  intro message greeting surrogate null cut
  have formed : Utf8.WellFormed greeting.payload.data.toList := Utf8.wellFormed_iff.mpr "grüß".isValidUTF8
  have malformed : ¬ Utf8.WellFormed surrogate.payload.data.toList := by
    rw [Utf8.wellFormed_iff]
    decide
  have long : ¬ Utf8.WellFormed null.payload.data.toList := by
    rw [Utf8.wellFormed_iff]
    decide
  have short : ¬ Utf8.WellFormed cut.payload.data.toList := by
    rw [Utf8.wellFormed_iff]
    decide
  obtain ⟨text, one, -, shown⟩ := (payloadDisplay_of_bytes greeting).1 formed
  obtain ⟨unread, -, digits⟩ := (payloadDisplay_of_bytes surrogate).2.1 malformed
  obtain ⟨unread', -, digits'⟩ := (payloadDisplay_of_bytes null).2.1 long
  have apart := (payloadDisplay_of_bytes null).2.2 cut ⟨fun h => absurd h long, fun h => absurd h short⟩
  have written : "eda080" = Hex.encode surrogate.payload := by decide
  have written' : "c080" = Hex.encode null.payload := by decide
  refine ⟨shown.trans ((one _).mp rfl).symm, unread, ((digits _).mpr (Hex.eq_encode_iff.mp written)).symm, unread',
    ((digits' _).mpr (Hex.eq_encode_iff.mp written')).symm, fun alike => ?_⟩
  exact absurd (apart.mp alike) (by decide)

/-- A text that looks like the digits of a byte that is none. -/
example : Payload.display "ff".toByteArray = Payload.display ⟨#[0xFF]⟩ := by decide

end Message

end BrokerSession
