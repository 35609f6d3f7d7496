/-!
# Topic names, topic filters and client identifiers

A topic is a path of levels separated by slashes. A *name* is what a message is published to; a *filter* is
what a subscriber asks for, and may hold wildcards: `+` stands for one level, `#` for all that follow.

Checks report the first fault they find, and `none` when there is no fault.

## Main definitions

* `Topic.levels` - the levels of a topic
* `TopicFault`, `TopicFault.message` - what can be wrong, and how it is said
* `Topic.nameFault?`, `Topic.filterFault?` - the first fault of a name or a filter
* `ClientId.fault?` - the first fault of a client identifier
* `Topic.Name`, `Topic.Filter` - the well-formed names and filters, as predicates
-/

namespace BrokerSession

/-- What can be wrong with a topic or a client identifier. -/
inductive TopicFault where
  | emptyTopic
  | topicTooLong (bytes : Nat)
  | wildcardInTopicName (topic : String)
  | malformedFilter (filter : String)
  | clientIdTooLong (length limit : Nat)
  | nulCharacter
  deriving DecidableEq, Repr, Inhabited

/-- The text of a fault. -/
def TopicFault.message : TopicFault → String
  | emptyTopic => "Topic cannot be empty"
  | topicTooLong bytes =>
    "Topic is " ++ toString bytes ++ " bytes, longer than the protocol allows"
  | wildcardInTopicName topic => "Topic name must not contain wildcards: '" ++ topic ++ "'"
  | malformedFilter filter => "Malformed topic filter: '" ++ filter ++ "'"
  | clientIdTooLong length limit =>
    "Client ID is " ++ toString length ++ " characters, limit is " ++ toString limit
  | nulCharacter => "NUL character is not allowed"

namespace Topic

/-- Topics travel with a length of two bytes in front of them. -/
def maxBytes : Nat := 65535

/-- The levels of a topic: the pieces between its slashes, empty ones included. -/
def levels (topic : String) : List (List Char) := topic.toList.splitOn '/'

/-- The fault that names and filters share, if any. -/
def commonFault? (topic : String) : Option TopicFault :=
  if topic.isEmpty then some .emptyTopic
  else if maxBytes < topic.utf8ByteSize then some (.topicTooLong topic.utf8ByteSize)
  else if '\x00' ∈ topic.toList then some .nulCharacter
  else none

/-- Whether a character is one of the two wildcards. -/
def isWildcard (c : Char) : Bool := c == '+' || c == '#'

/-- Whether some character of a topic is a wildcard. -/
def hasWildcard (topic : String) : Bool := topic.toList.any isWildcard

/-- Whether a level may stand in a filter: a wildcard fills its level, and `#` needs the last level. -/
def levelFits (last : Bool) (level : List Char) : Bool :=
  !(level.contains '#' && (level != ['#'] || !last)) && !(level.contains '+' && level != ['+'])

/-- Whether every level may stand where it stands. -/
def levelsFit : List (List Char) → Bool
  | [] => true
  | [level] => levelFits true level
  | level :: rest => levelFits false level && levelsFit rest

/-- The first fault of a topic name: one to publish to, without wildcards. -/
def nameFault? (topic : String) : Option TopicFault :=
  commonFault? topic <|>
    if hasWildcard topic then some (.wildcardInTopicName topic) else none

/-- The first fault of a topic filter. -/
def filterFault? (filter : String) : Option TopicFault :=
  commonFault? filter <|>
    if levelsFit (levels filter) then none else some (.malformedFilter filter)

/-- A well-formed topic name. -/
def Name (topic : String) : Prop := nameFault? topic = none

/-- A well-formed topic filter. -/
def Filter (filter : String) : Prop := filterFault? filter = none

instance (topic : String) : Decidable (Name topic) := inferInstanceAs (Decidable (_ = _))

instance (filter : String) : Decidable (Filter filter) := inferInstanceAs (Decidable (_ = _))

end Topic

namespace ClientId

/-- The longest client identifier of MQTT 3.1, in characters. -/
def strictLimit : Nat := 23

/-- The first fault of a client identifier: too many characters, then a NUL. -/
def fault? (limit : Option Nat) (clientId : String) : Option TopicFault :=
  match limit with
  | some n =>
    if n < clientId.length then some (.clientIdTooLong clientId.length n) else nulFault?
  | none => nulFault?
where
  /-- The fault of holding a NUL. -/
  nulFault? : Option TopicFault :=
    if '\x00' ∈ clientId.toList then some .nulCharacter else none

end ClientId

end BrokerSession
