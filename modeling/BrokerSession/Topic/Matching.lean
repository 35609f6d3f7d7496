import BrokerSession.Topic

/-!
# Which topics a filter selects

A filter and a topic are compared level by level: `+` selects any one level, `#` selects everything from its
place on, the level before it included, and any other level selects itself.

## Main definitions

* `Topic.levelsMatch` - the comparison, on lists of levels
* `Topic.selects` - the comparison, on filters and topics as written
-/

namespace BrokerSession.Topic

/-- Whether the levels of a filter select the levels of a topic. -/
def levelsMatch : List (List Char) → List (List Char) → Bool
  | [], [] => true
  | ['#'] :: _, _ => true
  | ['+'] :: filter, _ :: topic => levelsMatch filter topic
  | wanted :: filter, level :: topic => wanted == level && levelsMatch filter topic
  | _, _ => false

/-- Whether a filter selects a topic. -/
def selects (filter topic : String) : Bool := levelsMatch (levels filter) (levels topic)

end BrokerSession.Topic
