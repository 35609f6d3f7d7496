import BrokerSession.Text.Hex

/-!
# Percent-encoding

A character that may not stand in a part of a URL is written as its bytes, each as a percent sign with two
uppercase hexadecimal digits. Characters beyond ASCII are always written that way.

## Main definitions

* `Percent.encode` - the encoded text, for the characters that a part of a URL cannot hold
* `Percent.control`, `Percent.userinfo` - those characters for hosts, and for user names and passwords
-/

namespace BrokerSession.Percent

/-- The uppercase digit of a value below sixteen. -/
def digit (n : Nat) : Char := (Hex.digit n).toUpper

/-- The encoded form of a byte. -/
def encodeByte (b : UInt8) : List Char := ['%', digit (b.toNat / 16), digit (b.toNat % 16)]

/-- The encoded form of a character: itself, unless it is beyond ASCII or has to be encoded. -/
def encodeChar (special : Char → Bool) (c : Char) : List Char :=
  if 0x80 ≤ c.toNat || special c then (String.singleton c).toUTF8.data.toList.flatMap encodeByte
  else [c]

/-- The encoded form of a text. -/
def encode (special : Char → Bool) (cs : List Char) : String :=
  String.ofList (cs.flatMap (encodeChar special))

/-- The characters that a host cannot hold as they are: controls. -/
def control (c : Char) : Bool := c.toNat < 0x20 || c.toNat == 0x7f

/-- The characters that a user name or a password cannot hold as they are. -/
def userinfo (c : Char) : Bool := control c || " \"<>`#?\x7b\x7d/:;=@[\\]^|".toList.contains c

end BrokerSession.Percent
