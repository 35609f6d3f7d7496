import BrokerSession.Url.Percent
import BrokerSession.Url.Ipv6

/-!
# Broker URLs

A URL names a scheme, may carry a user name and a password, and goes on with a host and perhaps a port. What
follows the host is of no interest here. The parts are kept as a URL holds them, that is, with the characters
that it cannot hold percent-encoded.

## Main definitions

* `Url` - the parts of a URL
* `Url.ofAuthority?` - user name, password, host and port
* `Url.parse?` - the parts of a text, if it is a URL with a host
-/

namespace BrokerSession

/-- The parts of a URL that name a broker. -/
structure Url where
  /-- In lower case. -/
  scheme : String
  username : String
  password : Option String
  host : String
  port : Option UInt16
  deriving DecidableEq, Repr

namespace Url

/-- Whether a character is cut off at both ends of a text. -/
def isMargin (c : Char) : Bool := c.toNat ≤ 0x20

/-- Whether a character is dropped wherever it stands. -/
def isDropped (c : Char) : Bool := c == '\t' || c == '\n' || c == '\r'

/-- The text that is looked at. -/
def clean (text : String) : List Char :=
  let inner := (text.toList.dropWhile isMargin).reverse.dropWhile isMargin
  inner.reverse.filter (!isDropped ·)

/-- Whether a character may stand in a scheme behind its first letter. -/
def isSchemeChar (c : Char) : Bool := c.isAlphanum || c == '+' || c == '-' || c == '.'

/-- The scheme, and the text behind its colon. -/
def scheme? (cs : List Char) : Option (String × List Char) :=
  match cs.head?, cs.dropWhile isSchemeChar with
  | some c, ':' :: rest =>
    if c.isAlpha then some ((String.ofList (cs.takeWhile isSchemeChar)).toLower, rest) else none
  | _, _ => none

/-- Whether a character ends the part of a URL that names the host. -/
def endsAuthority (c : Char) : Bool := c == '/' || c == '?' || c == '#'

/-- A list cut at the last place where a character stands. -/
def cutLast? (c : Char) (cs : List Char) : Option (List Char × List Char) :=
  let reversed := cs.reverse
  match reversed.dropWhile (· != c) with
  | [] => none
  | _ :: front => some (front.reverse, (reversed.takeWhile (· != c)).reverse)

/-- The user name, and the password unless it is empty. -/
def userinfo (cs : List Char) : String × Option String :=
  let encode := Percent.encode Percent.userinfo
  match cs.dropWhile (· != ':') with
  | _ :: password@(_ :: _) => (encode (cs.takeWhile (· != ':')), some (encode password))
  | _ => (encode (cs.takeWhile (· != ':')), none)

/-- The host, and the text behind it. A colon ends it, unless it stands between brackets. -/
def cutHost (bracketed : Bool) (acc : List Char) : List Char → List Char × List Char
  | [] => (acc.reverse, [])
  | c :: rest =>
    if c == ':' && !bracketed then (acc.reverse, c :: rest)
    else cutHost (c == '[' || (bracketed && c != ']')) (c :: acc) rest

/-- The characters that a host cannot hold at all. -/
def isForbidden (c : Char) : Bool := "\x00\t\n\r #/:<>?@[\\]^|".toList.contains c

/-- A host: an address in brackets, or a name. -/
def host? (cs : List Char) : Option String :=
  match cs with
  | [] => none
  | '[' :: rest =>
    if rest.getLast? = some ']' then
      (Ipv6.parse rest.dropLast).map fun groups => "[" ++ Ipv6.render groups ++ "]"
    else none
  | cs => if cs.any isForbidden then none else some (Percent.encode Percent.control cs)

/-- The largest number of a port. -/
def maxPort : Nat := 65535

/-- A port, from its digits; there is none without digits. -/
def portOf? (digits : List Char) : Option (Option UInt16) :=
  if digits.isEmpty then some none
  else
    let n := digits.foldl (fun n c => 10 * n + (c.toNat - '0'.toNat)) 0
    if n ≤ maxPort then some (some (UInt16.ofNat n)) else none

/-- A port behind its colon. A backslash ends it too. -/
def port? : List Char → Option (Option UInt16)
  | [] => some none
  | _ :: cs =>
    match cs.dropWhile Char.isDigit with
    | [] => portOf? cs
    | '\\' :: _ => portOf? (cs.takeWhile Char.isDigit)
    | _ => none

/-- The parts of a URL, from its scheme and from the part that names the host. -/
def ofAuthority? (scheme : String) (authority : List Char) : Option Url := do
  let (credentials, place) := (cutLast? '@' authority).getD ([], authority)
  let (username, password) := userinfo credentials
  let (host, rest) := cutHost false [] place
  return ⟨scheme, username, password, ← host? host, ← port? rest⟩

/-- The parts of a text, if it is a URL with a host. -/
def parse? (text : String) : Option Url := do
  let (scheme, rest) ← scheme? (clean text)
  match rest with
  | '/' :: '/' :: rest => ofAuthority? scheme (rest.takeWhile (!endsAuthority ·))
  | _ => none

end Url

end BrokerSession
