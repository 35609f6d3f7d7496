/-!
# Hexadecimal text of bytes

Each byte is written as two lowercase digits, the high half first.

## Main definitions

* `Hex.digit`, `Hex.encode` - writing
* `Hex.value?`, `Hex.decode?` - reading; digits of either case are accepted

## Main results

* `Hex.decodeList?_encodeList` - what was written reads back
* `Hex.length_encodeList` - two digits a byte
-/

namespace BrokerSession.Hex

/-- The lowercase digit of a value below sixteen. -/
def digit (n : Nat) : Char :=
  if n < 10 then Char.ofNat (48 + n) else Char.ofNat (87 + n)

/-- The value of a digit, of either case. -/
def value? (c : Char) : Option Nat :=
  if '0' ≤ c ∧ c ≤ '9' then some (c.toNat - 48)
  else if 'a' ≤ c ∧ c ≤ 'f' then some (c.toNat - 87)
  else if 'A' ≤ c ∧ c ≤ 'F' then some (c.toNat - 55)
  else none

/-- Whether a character is a hexadecimal digit. -/
def isDigit (c : Char) : Bool := (value? c).isSome

/-- The two digits of a byte. -/
def encodeByte (b : UInt8) : List Char := [digit (b.toNat / 16), digit (b.toNat % 16)]

/-- The digits of a list of bytes. -/
def encodeList (bytes : List UInt8) : List Char := bytes.flatMap encodeByte

/-- The hexadecimal text of some bytes. -/
def encode (bytes : ByteArray) : String := String.ofList (encodeList bytes.data.toList)

/-- Reads pairs of digits; a stray character or an odd digit makes the text unreadable. -/
def decodeList? : List Char → Option (List UInt8)
  | [] => some []
  | high :: low :: rest => do
    let h ← value? high
    let l ← value? low
    let bytes ← decodeList? rest
    return UInt8.ofNat (16 * h + l) :: bytes
  | [_] => none

/-- The bytes of a hexadecimal text. -/
def decode? (text : String) : Option ByteArray :=
  (decodeList? text.toList).map fun bytes => ⟨bytes.toArray⟩

theorem value?_digit : ∀ {n : Nat}, n < 16 → value? (digit n) = some n := by decide

/-- A digit of either case has the value that it was written for. -/
theorem value?_toUpper_digit : ∀ {n : Nat}, n < 16 → value? (digit n).toUpper = some n := by decide

theorem decodeList?_encodeByte_append (b : UInt8) (rest : List Char) :
    decodeList? (encodeByte b ++ rest) = (decodeList? rest).map (b :: ·) := by
  have hb := b.toNat_lt_size
  have hh : b.toNat / 16 < 16 := by simp [UInt8.size] at hb; omega
  have hl : b.toNat % 16 < 16 := Nat.mod_lt _ (by decide)
  have hsum : UInt8.ofNat (16 * (b.toNat / 16) + b.toNat % 16) = b := by
    rw [Nat.div_add_mod, UInt8.ofNat_toNat]
  cases h : decodeList? rest <;>
    simp only [encodeByte, List.cons_append, List.nil_append, decodeList?, value?_digit hh,
      value?_digit hl, h, hsum, Option.bind_eq_bind, Option.bind_some, Option.bind_none,
      Option.map_some, Option.map_none, pure]

/-- What was written reads back. -/
theorem decodeList?_encodeList (bytes : List UInt8) :
    decodeList? (encodeList bytes) = some bytes := by
  induction bytes with
  | nil => rfl
  | cons b bytes ih =>
    rw [encodeList, List.flatMap_cons, decodeList?_encodeByte_append]
    simpa [encodeList] using ih

/-- A byte takes two digits. -/
theorem length_encodeList (bytes : List UInt8) :
    (encodeList bytes).length = 2 * bytes.length := by
  induction bytes with
  | nil => rfl
  | cons b bytes ih => simp_all [encodeList, encodeByte]; omega

end BrokerSession.Hex
