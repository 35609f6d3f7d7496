import BrokerSession.Bytes
import BrokerSession.Qos
import BrokerSession.Status
import BrokerSession.Text.Hex

/-!
# Messages and replies

What an application sees of the traffic of its session: the messages that arrive, and the replies to the
commands it gave.

## Main definitions

* `Message` - a message delivered on a subscribed topic
* `Message.payloadText?` - its payload as text, when the bytes are text
* `Message.payloadDisplay` - its payload as text, or in hexadecimal
* `Reply` - the outcome of a command
-/

namespace BrokerSession

/-- The number an engine gives to a message in flight; zero for a message sent once and forgotten. -/
abbrev MessageId := UInt16

/-- A message delivered on a subscribed topic. -/
structure Message where
  id : MessageId
  topic : String
  payload : ByteArray
  qos : Qos
  retain : Bool
  deriving DecidableEq

namespace Payload

/-- A payload as text; `none` when its bytes are no text. -/
def text? (payload : ByteArray) : Option String := String.fromUTF8? payload

/-- A payload for display: the text, or the bytes in hexadecimal where there is no text. -/
def display (payload : ByteArray) : String := (text? payload).getD (Hex.encode payload)

end Payload

/-- The payload as text; `none` when its bytes are no text. -/
def Message.payloadText? (m : Message) : Option String := Payload.text? m.payload

/-- The payload for display. -/
def Message.payloadDisplay (m : Message) : String := Payload.display m.payload

/-- The outcome of a command: what the engine answered, and the number it gave to the message. -/
structure Reply where
  status : Status
  id : MessageId
  deriving DecidableEq, Repr, Inhabited

/-- The reply to a command that carries no message. -/
def Reply.ofStatus (status : Status) : Reply := ⟨status, 0⟩

/-- Whether the command did what it was asked to. -/
def Reply.isSuccess (r : Reply) : Bool := r.status.isSuccess

end BrokerSession
