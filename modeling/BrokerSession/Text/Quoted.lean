/-!
# Quoted text in messages

A message that mentions a text shows it between double quotes. What would not be seen, or would be taken for
the end of the quotation, is written as an escape: control, format and private characters, the blanks other
than the plain space, and marks that combine with the character before them.

## Main definitions

* `Quoted.hiddenRanges` - the characters that are shown as escapes
* `Quoted.encodeChar`, `Quoted.encode` - the quoted form
-/

namespace BrokerSession.Quoted

/-- The code points that a reader would not see, as closed ranges. -/
def hiddenRanges : List (Nat × Nat) :=
  [(0x00, 0x1f), (0x7f, 0xa0), (0xad, 0xad), (0x300, 0x36f), (0x378, 0x379), (0x483, 0x489),
    (0x591, 0x5bd), (0x5bf, 0x5bf), (0x5c1, 0x5c2), (0x5c4, 0x5c5), (0x600, 0x605), (0x610, 0x61a),
    (0x61c, 0x61c), (0x64b, 0x65f), (0x6d6, 0x6dd), (0x70f, 0x70f), (0x1680, 0x1680),
    (0x180b, 0x180f), (0x1ab0, 0x1aff), (0x1dc0, 0x1dff), (0x2000, 0x200f), (0x2028, 0x202f),
    (0x205f, 0x206f), (0x20d0, 0x20ff), (0x3000, 0x3000), (0x302a, 0x302f), (0x3099, 0x309a),
    (0xd800, 0xf8ff), (0xfe00, 0xfe0f), (0xfe20, 0xfe2f), (0xfeff, 0xfeff), (0xfff0, 0xfffb),
    (0xfffe, 0xffff), (0xe0000, 0x10ffff)]

/-- Whether a reader would not see a character. -/
def isHidden (c : Char) : Bool := hiddenRanges.any fun (low, high) => low ≤ c.toNat && c.toNat ≤ high

/-- A character inside the quotes. -/
def encodeChar (c : Char) : List Char :=
  if c = '\x00' then ['\\', '0']
  else if c = '\t' then ['\\', 't']
  else if c = '\n' then ['\\', 'n']
  else if c = '\r' then ['\\', 'r']
  else if c = '"' ∨ c = '\\' then ['\\', c]
  else if isHidden c then "\\u\x7b".toList ++ Nat.toDigits 16 c.toNat ++ ['}']
  else [c]

/-- A text between double quotes. -/
def encode (text : String) : String :=
  String.ofList ('"' :: text.toList.flatMap encodeChar ++ ['"'])

end BrokerSession.Quoted
