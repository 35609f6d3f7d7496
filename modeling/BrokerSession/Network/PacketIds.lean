import BrokerSession.Message

/-!
# Numbers for messages in flight

A client numbers what it sends from one to the size of its window, and then starts again.

## Main definitions

* `PacketIds` - the last number that was given out, and the window
* `PacketIds.next` - the next number
* `PacketIds.ofLimit` - the window for a configured limit
-/

namespace BrokerSession

/-- The last number that was given out, and the window that the numbers stay in. -/
structure PacketIds where
  last : UInt16
  window : UInt16
  deriving DecidableEq, Repr

namespace PacketIds

/-- The largest window there can be. -/
def maxWindow : UInt16 := 65535

/-- The window for a configured limit; none, or one that is too large, stands for the largest. -/
def ofLimit (limit : UInt32) : UInt16 :=
  if limit = 0 ∨ maxWindow.toUInt32 < limit then maxWindow else limit.toUInt16

/-- Nothing has been numbered in a window. -/
def start (window : UInt16) : PacketIds := ⟨0, window⟩

/-- The next number. Behind the last number of the window the next one is the first again. -/
def next (ids : PacketIds) : MessageId × PacketIds :=
  let id := ids.last + 1
  (id, { ids with last := if id = ids.window then 0 else id })

/-- The next few numbers. -/
def take (n : Nat) (ids : PacketIds) : List MessageId × PacketIds :=
  let (taken, ids) := n.fold (fun _ _ (taken, ids) =>
    let (id, ids) := next ids
    (id :: taken, ids)) ([], ids)
  (taken.reverse, ids)

end PacketIds

end BrokerSession
