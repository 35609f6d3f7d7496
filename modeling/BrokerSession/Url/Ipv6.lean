import BrokerSession.Text.Hex

/-!
# Addresses of 128 bits

An address is eight groups of 16 bits. Once in its text a run of zero groups may be left out, which leaves two
colons in a row; the last two groups may be written as four decimal numbers. The canonical text leaves out the
longest run of at least two zero groups, the first of several.

## Main definitions

* `Ipv6.parse` - the groups of an address
* `Ipv6.render` - the canonical text
-/

namespace BrokerSession.Ipv6

/-- The number of groups of an address. -/
def groupCount : Nat := 8

/-- A group: up to four hexadecimal digits. -/
def group? (cs : List Char) : Option Nat := do
  if cs.isEmpty || 4 < cs.length then none
  else return (← cs.mapM Hex.value?).foldl (fun n d => 16 * n + d) 0

/-- A decimal number below 256, without zeros in front. -/
def octet? (cs : List Char) : Option Nat :=
  if cs.isEmpty || !cs.all Char.isDigit || (1 < cs.length && cs.head? == some '0') || 3 < cs.length
  then none
  else
    let n := cs.foldl (fun n c => 10 * n + (c.toNat - '0'.toNat)) 0
    if n < 256 then some n else none

/-- The two groups that four decimal numbers stand for. -/
def quad? (cs : List Char) : Option (List Nat) := do
  match ← (cs.splitOn '.').mapM octet? with
  | [a, b, c, d] => return [256 * a + b, 256 * c + d]
  | _ => none

/-- The groups of a text without a gap. Only the last one may be written as decimal numbers, and only where
`final` says that the address ends there. -/
def groups? (final : Bool) : List (List Char) → Option (List Nat)
  | [] => some []
  | [cs] => ((group? cs).map ([·])) <|> if final then quad? cs else none
  | cs :: rest => do return (← group? cs) :: (← groups? final rest)

/-- The pieces between colons; no pieces where there is no text. -/
def pieces (cs : List Char) : List (List Char) := if cs.isEmpty then [] else cs.splitOn ':'

/-- The text before the first two colons in a row, and the text behind them. -/
def gap? (acc : List Char) : List Char → Option (List Char × List Char)
  | ':' :: ':' :: rest => some (acc.reverse, rest)
  | c :: rest => gap? (c :: acc) rest
  | [] => none

/-- The groups of an address. -/
def parse (cs : List Char) : Option (List Nat) := do
  match gap? [] cs with
  | none =>
    let groups ← groups? true (pieces cs)
    if groups.length = groupCount then some groups else none
  | some (front, back) =>
    let front ← groups? false (pieces front)
    let back ← groups? true (pieces back)
    let count := front.length + back.length
    if count < groupCount then some (front ++ List.replicate (groupCount - count) 0 ++ back)
    else none

/-- The length of the run of zeros that a list begins with. -/
def zeroRun (groups : List Nat) : Nat := (groups.takeWhile (· == 0)).length

/-- Where the longest run of zeros begins, the first of several, with its length. -/
def longestRun (groups : List Nat) : Nat × Nat :=
  (List.range groups.length).foldl (fun best start =>
    let run := zeroRun (groups.drop start)
    if best.2 < run then (start, run) else best) (0, 0)

/-- A group in hexadecimal digits. -/
def renderGroup (n : Nat) : String := String.ofList (Nat.toDigits 16 n)

/-- Groups with colons between them. -/
def renderGroups (groups : List Nat) : String := ":".intercalate (groups.map renderGroup)

/-- The canonical text of an address. -/
def render (groups : List Nat) : String :=
  let (start, run) := longestRun groups
  if run < 2 then renderGroups groups
  else renderGroups (groups.take start) ++ "::" ++ renderGroups (groups.drop (start + run))

end BrokerSession.Ipv6
