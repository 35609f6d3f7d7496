import BrokerSession.Event
import BrokerSession.Url.Percent
import Mathlib.Data.String.Basic

/-!
# Texts behind percent signs

A text is written into a part of a URL by escaping every character that may not stand there, and with it the percent
sign, which would be taken for the beginning of an escape. What was written so can be read back, whatever else was
escaped along with it. Nothing is written as itself that needs an escape, so the written form can stand in the URL and
is not touched when the URL is written out again; and a text is its own written form only if nothing in it was escaped.

## Main definitions

* `Percent.decode?` - the text that an encoded text stands for
* `Percent.Reserves` - a choice of characters to be escaped under which every text can be written and read
* `Percent.Bare` - a character that is written as itself

## Main results

* `Percent.decode?_encode` - what was written reads back
* `Percent.bare_of_mem_encode` - what was written may stand in a user name or a password
* `Percent.encode_eq_iff` - the texts that are their own written form
-/

namespace BrokerSession.Percent

variable {special : Char → Bool} {c : Char} {cs : List Char}

/-! ## Reading -/

/-- The bytes that an encoded text stands for: an escape for the byte that it spells, and every other character, a
percent sign without digits among them, for its own bytes. -/
def decodeBytes : List Char → List UInt8
  | [] => []
  | [c] => String.utf8EncodeChar c
  | [c, d] => String.utf8EncodeChar c ++ String.utf8EncodeChar d
  | c :: high :: low :: rest =>
    match c == '%', Hex.value? high, Hex.value? low with
    | true, some h, some l => UInt8.ofNat (16 * h + l) :: decodeBytes rest
    | _, _, _ => String.utf8EncodeChar c ++ decodeBytes (high :: low :: rest)

/-- The text that an encoded text stands for, if its bytes are a text. -/
def decode? (text : String) : Option String := String.fromUTF8? ⟨(decodeBytes text.toList).toArray⟩

theorem decodeBytes_cons (other : c ≠ '%') (rest : List Char) :
    decodeBytes (c :: rest) = String.utf8EncodeChar c ++ decodeBytes rest := by
  match rest with
  | [] => simp [decodeBytes]
  | [d] => simp [decodeBytes]
  | high :: low :: rest =>
    have plain : (c == '%') = false := beq_eq_false_iff_ne.mpr other
    simp [decodeBytes, plain]

theorem decodeBytes_encodeByte (b : UInt8) (rest : List Char) :
    decodeBytes (encodeByte b ++ rest) = b :: decodeBytes rest := by
  have bound := b.toNat_lt_size
  have high : b.toNat / 16 < 16 := by
    simp only [UInt8.size] at bound
    omega
  have low : b.toNat % 16 < 16 := Nat.mod_lt _ (by decide)
  have sum : UInt8.ofNat (16 * (b.toNat / 16) + b.toNat % 16) = b := by
    rw [Nat.div_add_mod, UInt8.ofNat_toNat]
  simp only [encodeByte, digit, List.cons_append, List.nil_append, decodeBytes, beq_self_eq_true,
    Hex.value?_toUpper_digit high, Hex.value?_toUpper_digit low, sum]

theorem decodeBytes_flatMap_encodeByte (bytes : List UInt8) (rest : List Char) :
    decodeBytes (bytes.flatMap encodeByte ++ rest) = bytes ++ decodeBytes rest := by
  induction bytes with
  | nil => rfl
  | cons b bytes ih =>
    rw [List.flatMap_cons, List.append_assoc, decodeBytes_encodeByte, ih, List.cons_append]

/-! ## Writing -/

/-- The characters to be escaped are all that may not stand in a user name or a password, and the percent sign. There
may be more of them. -/
def Reserves (special : Char → Bool) : Prop := ∀ c, userinfo c = true ∨ c = '%' → special c = true

/-- A character that is written as itself under a choice of characters to be escaped. -/
def Bare (special : Char → Bool) (c : Char) : Prop := c.toNat < 0x80 ∧ special c = false

instance (special : Char → Bool) (c : Char) : Decidable (Bare special c) := inferInstanceAs (Decidable (_ ∧ _))

theorem encodeChar_of_bare (bare : Bare special c) : encodeChar special c = [c] := by
  obtain ⟨ascii, plain⟩ := bare
  simp [encodeChar, plain, Nat.not_le.mpr ascii]

theorem encodeChar_of_not_bare (escaped : ¬ Bare special c) :
    encodeChar special c = (String.utf8EncodeChar c).flatMap encodeByte := by
  have needed : 0x80 ≤ c.toNat ∨ special c = true := by
    simpa [Bare, Decidable.imp_iff_not_or, Nat.not_lt] using escaped
  have bytes : (String.singleton c).toUTF8.data.toList = String.utf8EncodeChar c := by
    simp [List.utf8Encode_singleton, List.data_toByteArray]
  rw [encodeChar, if_pos (by simpa using needed), bytes]

/-- What is written as itself may stand in a user name or a password. -/
theorem Reserves.bare (reserves : Reserves special) (bare : Bare special c) : Bare userinfo c := by
  refine ⟨bare.1, Bool.eq_false_iff.mpr fun held => ?_⟩
  have taken := reserves c (.inl held)
  rw [bare.2] at taken
  cases taken

theorem Reserves.ne_percent (reserves : Reserves special) (bare : Bare special c) : c ≠ '%' := by
  intro same
  have taken := reserves c (.inr same)
  rw [bare.2] at taken
  cases taken

theorem bare_digit : ∀ {n : Nat}, n < 16 → Bare userinfo (digit n) := by decide

theorem bare_of_mem_encodeByte {b : UInt8} (held : c ∈ encodeByte b) : Bare userinfo c := by
  have bound := b.toNat_lt_size
  simp only [UInt8.size] at bound
  simp only [encodeByte, List.mem_cons, List.not_mem_nil, or_false] at held
  rcases held with rfl | rfl | rfl
  · decide
  · exact bare_digit (by omega)
  · exact bare_digit (Nat.mod_lt _ (by decide))

/-- What was written may stand in a user name or a password. -/
theorem bare_of_mem_encode (reserves : Reserves special) (held : c ∈ (encode special cs).toList) :
    Bare userinfo c := by
  rw [encode, String.toList_ofList] at held
  obtain ⟨d, -, among⟩ := List.mem_flatMap.mp held
  by_cases bare : Bare special d
  · rw [encodeChar_of_bare bare, List.mem_singleton] at among
    exact among ▸ reserves.bare bare
  · rw [encodeChar_of_not_bare bare] at among
    obtain ⟨b, -, among⟩ := List.mem_flatMap.mp among
    exact bare_of_mem_encodeByte among

/-- The bytes that were written are those of the text. -/
theorem decodeBytes_flatMap_encodeChar (reserves : Reserves special) (cs : List Char) :
    decodeBytes (cs.flatMap (encodeChar special)) = cs.flatMap String.utf8EncodeChar := by
  induction cs with
  | nil => rfl
  | cons c cs ih =>
    rw [List.flatMap_cons, List.flatMap_cons, ← ih]
    by_cases bare : Bare special c
    · rw [encodeChar_of_bare bare, List.singleton_append, decodeBytes_cons (reserves.ne_percent bare)]
    · rw [encodeChar_of_not_bare bare, decodeBytes_flatMap_encodeByte]

/-- What was written reads back. -/
theorem decode?_encode (reserves : Reserves special) (text : String) :
    decode? (encode special text.toList) = some text := by
  have whole : (⟨(text.toList.flatMap String.utf8EncodeChar).toArray⟩ : ByteArray) = text.toByteArray := by
    have own : text.toByteArray = text.toList.utf8Encode := by
      rw [← String.toByteArray_ofList, String.ofList_toList]
    rw [own, ByteArray.ext_iff, List.utf8Encode, List.data_toByteArray]
  rw [decode?, encode, String.toList_ofList, decodeBytes_flatMap_encodeChar reserves, whole, fromUTF8?_toByteArray]

/-! ## Texts that are their own written form -/

/-- A text whose characters are all written as themselves is written as it is. -/
theorem encode_of_bare (each : ∀ c ∈ cs, Bare special c) : encode special cs = String.ofList cs := by
  have same : cs.flatMap (encodeChar special) = cs.flatMap fun c => [c] :=
    List.flatMap_congr fun c held => encodeChar_of_bare (each c held)
  rw [encode, same, List.flatMap_singleton']

/-- An escaped character takes more room than it took. -/
theorem one_lt_length_encodeChar (escaped : ¬ Bare special c) : 1 < (encodeChar special c).length := by
  rw [encodeChar_of_not_bare escaped]
  obtain ⟨b, bytes, some⟩ := List.exists_cons_of_ne_nil (String.utf8EncodeChar_ne_nil (c := c))
  simp only [some, List.flatMap_cons, encodeByte, List.length_append, List.length_cons]
  omega

theorem length_le_length_encode (special : Char → Bool) (cs : List Char) :
    cs.length ≤ (cs.flatMap (encodeChar special)).length := by
  induction cs with
  | nil => exact Nat.le_refl 0
  | cons c cs ih =>
    rw [List.flatMap_cons, List.length_append, List.length_cons]
    by_cases bare : Bare special c
    · rw [encodeChar_of_bare bare, List.length_singleton]
      omega
    · have more := one_lt_length_encodeChar bare
      omega

/-- A text that does not grow had nothing in it to be escaped. -/
theorem bare_of_length_encode (same : (cs.flatMap (encodeChar special)).length = cs.length) :
    ∀ c ∈ cs, Bare special c := by
  induction cs with
  | nil => simp
  | cons c cs ih =>
    rw [List.flatMap_cons, List.length_append, List.length_cons] at same
    have rest := length_le_length_encode special cs
    by_cases bare : Bare special c
    · rw [encodeChar_of_bare bare, List.length_singleton] at same
      exact List.forall_mem_cons.mpr ⟨bare, ih (by omega)⟩
    · have more := one_lt_length_encodeChar bare
      omega

/-- The texts that are their own written form are those in which nothing is escaped. -/
theorem encode_eq_iff (special : Char → Bool) (text : String) :
    encode special text.toList = text ↔ ∀ c ∈ text.toList, Bare special c := by
  constructor
  · intro same
    refine bare_of_length_encode (congrArg List.length ?_)
    rw [← String.toList_inj, encode, String.toList_ofList] at same
    exact same
  · intro each
    rw [encode_of_bare each, String.ofList_toList]

theorem encode_ne_empty {text : String} (some : text ≠ "") : encode special text.toList ≠ "" := by
  intro none
  have least := length_le_length_encode special text.toList
  rw [← String.toList_inj, encode, String.toList_ofList] at none
  rw [none] at least
  exact some (String.toList_inj.mp (List.eq_nil_of_length_eq_zero (Nat.le_zero.mp least)))

end BrokerSession.Percent
