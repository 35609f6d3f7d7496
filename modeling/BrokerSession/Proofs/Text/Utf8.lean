import Mathlib.Tactic.SplitIfs

/-!
# The bytes of a text

In UTF-8 a character has one to four bytes. The first says how many, and the others continue it. Not every such sequence
stands for a character: one that is longer than its number needs does not, nor does one for a surrogate, nor one beyond
the last character. A text is the bytes of its characters, one behind the other, so what ends within a character is none.

## Main definitions

* `Utf8.OfCharacter` - the sequences of bytes that stand for one character
* `Utf8.WellFormed` - the sequences of bytes that are a text

## Main results

* `Utf8.ofCharacter_iff` - they are the sequences that characters are written as
* `Utf8.wellFormed_iff` - they are the bytes that a text can be read from
-/

namespace BrokerSession.Utf8

/-- The bytes that continue a character. -/
def IsTail (b : UInt8) : Prop := 0x80 ≤ b ∧ b ≤ 0xBF

/-- The sequences of bytes that stand for one character. The range of the second byte is narrower behind some first
bytes: there the full range would hold numbers that need fewer bytes, surrogates, or numbers beyond the last one. -/
inductive OfCharacter : List UInt8 → Prop
  | one {a : UInt8} (lead : a ≤ 0x7F) : OfCharacter [a]
  | two {a b : UInt8} (lead : 0xC2 ≤ a ∧ a ≤ 0xDF) (second : IsTail b) : OfCharacter [a, b]
  | three {a b c : UInt8} (lead : 0xE0 ≤ a ∧ a ≤ 0xEF) (second : IsTail b) (third : IsTail c)
    (needed : a = 0xE0 → 0xA0 ≤ b) (scalar : a = 0xED → b ≤ 0x9F) : OfCharacter [a, b, c]
  | four {a b c d : UInt8} (lead : 0xF0 ≤ a ∧ a ≤ 0xF4) (second : IsTail b) (third : IsTail c) (fourth : IsTail d)
    (needed : a = 0xF0 → 0x90 ≤ b) (within : a = 0xF4 → b ≤ 0x8F) : OfCharacter [a, b, c, d]

/-- The sequences of bytes that are a text. -/
inductive WellFormed : List UInt8 → Prop
  | nil : WellFormed []
  | cons {bytes rest : List UInt8} (first : OfCharacter bytes) (others : WellFormed rest) : WellFormed (bytes ++ rest)

/-! ## One character -/

/-- The numbers of characters. -/
theorem exists_character_iff (v : Nat) :
    (∃ c : Char, c.val.toNat = v) ↔ v < 0xD800 ∨ 0xDFFF < v ∧ v < 0x110000 := by
  constructor
  · rintro ⟨c, rfl⟩
    exact c.valid
  · intro valid
    exact ⟨Char.ofNatAux v valid, rfl⟩

/-- A character is written as a sequence that stands for one. -/
theorem ofCharacter_utf8EncodeChar (c : Char) : OfCharacter (String.utf8EncodeChar c) := by
  have valid := (exists_character_iff _).mp ⟨c, rfl⟩
  unfold String.utf8EncodeChar
  dsimp only
  generalize c.val.toNat = v at valid
  split_ifs with one two three
  · refine .one ?_
    simp only [UInt8.le_iff_toNat_le, UInt8.toNat_ofNat', UInt8.reduceToNat]
    omega
  · refine .two ?_ ?_ <;> simp only [IsTail, UInt8.le_iff_toNat_le, UInt8.toNat_ofNat', UInt8.reduceToNat] <;> omega
  · refine .three ?_ ?_ ?_ ?_ ?_ <;>
      simp only [IsTail, UInt8.le_iff_toNat_le, ← UInt8.toNat_inj, UInt8.toNat_ofNat', UInt8.reduceToNat] <;> omega
  · refine .four ?_ ?_ ?_ ?_ ?_ ?_ <;>
      simp only [IsTail, UInt8.le_iff_toNat_le, ← UInt8.toNat_inj, UInt8.toNat_ofNat', UInt8.reduceToNat] <;> omega

/-- A sequence that stands for a character is what one is written as. -/
theorem exists_utf8EncodeChar {bytes : List UInt8} (stands : OfCharacter bytes) :
    ∃ c : Char, bytes = String.utf8EncodeChar c := by
  -- In each case the bits of the bytes make up the number of the character, which the ranges keep in bounds.
  cases stands with
  | @one a lead =>
    simp only [UInt8.le_iff_toNat_le, UInt8.reduceToNat] at lead
    obtain ⟨ch, number⟩ := (exists_character_iff a.toNat).mpr (by omega)
    refine ⟨ch, ?_⟩
    simp only [String.utf8EncodeChar, number]
    rw [if_pos lead, UInt8.ofNat_toNat]
  | @two a b lead second =>
    simp only [IsTail, UInt8.le_iff_toNat_le, UInt8.reduceToNat] at lead second
    obtain ⟨ch, number⟩ := (exists_character_iff ((a.toNat - 0xC0) * 64 + (b.toNat - 0x80))).mpr (by omega)
    refine ⟨ch, ?_⟩
    simp only [String.utf8EncodeChar, number]
    rw [if_neg (by omega), if_pos (by omega)]
    simp only [List.cons.injEq, ← UInt8.toNat_inj, UInt8.toNat_ofNat', and_true]
    omega
  | @three a b c lead second third needed scalar =>
    simp only [IsTail, UInt8.le_iff_toNat_le, ← UInt8.toNat_inj, UInt8.reduceToNat] at lead second third needed scalar
    obtain ⟨ch, number⟩ := (exists_character_iff
      ((a.toNat - 0xE0) * 4096 + (b.toNat - 0x80) * 64 + (c.toNat - 0x80))).mpr (by omega)
    refine ⟨ch, ?_⟩
    simp only [String.utf8EncodeChar, number]
    rw [if_neg (by omega), if_neg (by omega), if_pos (by omega)]
    simp only [List.cons.injEq, ← UInt8.toNat_inj, UInt8.toNat_ofNat', and_true]
    omega
  | @four a b c d lead second third fourth needed within =>
    simp only [IsTail, UInt8.le_iff_toNat_le, ← UInt8.toNat_inj, UInt8.reduceToNat]
      at lead second third fourth needed within
    obtain ⟨ch, number⟩ := (exists_character_iff
      ((a.toNat - 0xF0) * 262144 + (b.toNat - 0x80) * 4096 + (c.toNat - 0x80) * 64 + (d.toNat - 0x80))).mpr (by omega)
    refine ⟨ch, ?_⟩
    simp only [String.utf8EncodeChar, number]
    rw [if_neg (by omega), if_neg (by omega), if_neg (by omega)]
    simp only [List.cons.injEq, ← UInt8.toNat_inj, UInt8.toNat_ofNat', and_true]
    omega

/-- The sequences that stand for a character are those that characters are written as. -/
theorem ofCharacter_iff {bytes : List UInt8} :
    OfCharacter bytes ↔ ∃ c : Char, bytes = String.utf8EncodeChar c := by
  refine ⟨exists_utf8EncodeChar, ?_⟩
  rintro ⟨c, rfl⟩
  exact ofCharacter_utf8EncodeChar c

/-! ## A text -/

/-- A text is what some characters are written as, one behind the other. -/
theorem wellFormed_iff_exists_flatMap {bytes : List UInt8} :
    WellFormed bytes ↔ ∃ cs : List Char, bytes = cs.flatMap String.utf8EncodeChar := by
  constructor
  · intro formed
    induction formed with
    | nil => exact ⟨[], rfl⟩
    | cons first others written =>
      obtain ⟨c, rfl⟩ := ofCharacter_iff.mp first
      obtain ⟨cs, rfl⟩ := written
      exact ⟨c :: cs, rfl⟩
  · rintro ⟨cs, rfl⟩
    induction cs with
    | nil => exact .nil
    | cons c cs formed => exact .cons (ofCharacter_utf8EncodeChar c) formed

/-- The bytes of a text are those that a text can be read from. -/
theorem wellFormed_iff {bytes : ByteArray} : WellFormed bytes.data.toList ↔ bytes.IsValidUTF8 := by
  rw [wellFormed_iff_exists_flatMap]
  constructor
  · rintro ⟨cs, written⟩
    refine ⟨cs, ByteArray.ext ?_⟩
    rw [List.utf8Encode, List.data_toByteArray, ← written]
  · rintro ⟨cs, rfl⟩
    exact ⟨cs, by rw [List.utf8Encode, List.data_toByteArray]⟩

end BrokerSession.Utf8
