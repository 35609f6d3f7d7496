/-!
# Status of an engine command

A protocol engine answers every command with an integer code. Each code has a name; a code without one
reads as `Status.unknown`, so that no answer is ever unusable.

## Main definitions

* `Status` - the named answers
* `Status.code`, `Status.ofCode` - the integer of an answer, and the answer of any integer
* `Status.message` - the text shown to people, with the code in parentheses
-/

namespace BrokerSession

/-- What an engine answers to a command. -/
inductive Status where
  | connPending
  | success
  | noMem
  | protocolViolation
  | inval
  | noConn
  | connRefused
  | notFound
  | connLost
  | tls
  | payloadSize
  | notSupported
  | auth
  | aclDenied
  | unknown
  | errno
  | eai
  deriving DecidableEq, Repr, Inhabited

namespace Status

/-- All answers, in the order of their codes. -/
def all : List Status :=
  [connPending, success, noMem, protocolViolation, inval, noConn, connRefused, notFound, connLost,
    tls, payloadSize, notSupported, auth, aclDenied, unknown, errno, eai]

/-- The integer an engine uses for an answer: `-1` for the first of `all`, then counting up. -/
def code : Status → Int
  | connPending => -1
  | success => 0
  | noMem => 1
  | protocolViolation => 2
  | inval => 3
  | noConn => 4
  | connRefused => 5
  | notFound => 6
  | connLost => 7
  | tls => 8
  | payloadSize => 9
  | notSupported => 10
  | auth => 11
  | aclDenied => 12
  | unknown => 13
  | errno => 14
  | eai => 15

/-- The answer an integer stands for; an integer that is nobody's code is `unknown`. -/
def ofCode (raw : Int) : Status := (all.find? (·.code == raw)).getD unknown

/-- Whether the command did what it was asked to. -/
def isSuccess (s : Status) : Bool := s == success

/-- The description of an answer, without its code. -/
def description : Status → String
  | connPending => "connection pending"
  | success => "success"
  | noMem => "out of memory"
  | protocolViolation => "protocol violation"
  | inval => "invalid argument"
  | noConn => "not connected"
  | connRefused => "connection refused"
  | notFound => "not found"
  | connLost => "connection lost"
  | tls => "TLS failure"
  | payloadSize => "payload too large"
  | notSupported => "not supported"
  | auth => "authentication failure"
  | aclDenied => "access denied"
  | unknown => "unknown error"
  | errno => "system error"
  | eai => "address resolution failure"

/-- The text shown to people: the description, then the code in parentheses. -/
def message (s : Status) : String := s.description ++ " (" ++ toString s.code ++ ")"

@[simp] theorem isSuccess_iff {s : Status} : s.isSuccess = true ↔ s = success := by
  simp [isSuccess]

@[simp] theorem ofCode_code (s : Status) : ofCode s.code = s := by
  cases s <;> decide

end Status

end BrokerSession
