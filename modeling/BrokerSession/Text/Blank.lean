/-!
# Blank characters

The characters with the property `White_Space`: what is left of a text that holds nothing else is no text.

## Main definitions

* `Blank.ranges` - the blank characters, as ranges of code points
* `Blank.isBlank` - whether a character is blank
-/

namespace BrokerSession.Blank

/-- The blank characters, as closed ranges of code points. -/
def ranges : List (Nat × Nat) :=
  [(0x09, 0x0d), (0x20, 0x20), (0x85, 0x85), (0xa0, 0xa0), (0x1680, 0x1680), (0x2000, 0x200a),
    (0x2028, 0x2029), (0x202f, 0x202f), (0x205f, 0x205f), (0x3000, 0x3000)]

/-- Whether a character is blank. -/
def isBlank (c : Char) : Bool := ranges.any fun (low, high) => low ≤ c.toNat && c.toNat ≤ high

end BrokerSession.Blank
