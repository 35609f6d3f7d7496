import BrokerSession.Event

/-!
# Traffic on the wire, and what a session hears of it

The network engine exchanges packets with a broker and reports some of them as events. Acknowledgements end
a publish; an outgoing publish ends one only when nobody will acknowledge it.

## Main definitions

* `Packet` - a packet from the broker
* `Outgoing` - a packet that the client has just written
* `ConnectAnswer.code` - the integer of a broker's answer to a connect request
* `LinkError` - how the connection may fail
* `Packet.event?`, `Outgoing.event?`, `LinkError.event` - the event each of them is reported as
-/

namespace BrokerSession

/-- The answer in a connect acknowledgement. -/
inductive ConnectAnswer where
  | accepted
  | refusedProtocolVersion
  | badClientId
  | serviceUnavailable
  | badUserNamePassword
  | notAuthorized
  deriving DecidableEq, Repr, Inhabited

/-- The integer by which an answer travels. -/
def ConnectAnswer.code : ConnectAnswer → Int
  | accepted => 0
  | refusedProtocolVersion => 1
  | badClientId => 2
  | serviceUnavailable => 3
  | badUserNamePassword => 4
  | notAuthorized => 5

/-- A packet from the broker. -/
inductive Packet where
  | connAck (answer : ConnectAnswer) (sessionPresent : Bool)
  | publish (topic : String) (qos : Qos) (id : MessageId) (retain dup : Bool) (payload : ByteArray)
  | pubAck (id : MessageId)
  | pubRec (id : MessageId)
  | pubRel (id : MessageId)
  | pubComp (id : MessageId)
  /-- One result for each filter: the granted guarantee, or a refusal. -/
  | subAck (id : MessageId) (results : List (Option Qos))
  | unsubAck (id : MessageId)
  | pingReq
  | pingResp
  | disconnect
  /-- Packets that only a client sends; nobody asks what is in them. -/
  | connect
  | subscribe
  | unsubscribe
  deriving DecidableEq

/-- A packet that the client has just written, by kind and number. -/
inductive Outgoing where
  | publish (id : MessageId)
  | subscribe (id : MessageId)
  | unsubscribe (id : MessageId)
  | pubAck (id : MessageId)
  | pubRec (id : MessageId)
  | pubRel (id : MessageId)
  | pubComp (id : MessageId)
  | pingReq
  | pingResp
  | disconnect
  /-- A publish waits because its number is still in use. -/
  | awaitAck (id : MessageId)
  deriving DecidableEq, Repr

/-- How a connection may fail. -/
inductive LinkError where
  /-- The broker answered the connect request with a refusal. -/
  | refused (answer : ConnectAnswer)
  | networkTimeout
  | flushTimeout
  | transport
  /-- The first packet of the broker was no connect acknowledgement. -/
  | notConnAck (packet : Packet)
  | requestsDone
  /-- A ping was not answered within the keep-alive interval. -/
  | pingUnanswered
  | stateTransport
  | invalidState
  | unsolicited (id : MessageId)
  | wrongPacket
  | collisionTimeout
  | emptySubscription
  /-- The transport security could not be set up. -/
  | tls
  /-- A packet of the broker could not be read. -/
  | malformedPacket
  /-- A packet to be written is larger than the broker takes. -/
  | oversizedPacket
  deriving DecidableEq

/-- The level reported for a refused subscription. -/
def refusedLevel : Int := 0x80

/-- The level reported for one result of a subscription. -/
def resultLevel : Option Qos → Int
  | some qos => qos.level
  | none => refusedLevel

/-- The event an arriving packet is reported as; most packets are nobody's business but the engine's. -/
def Packet.event? : Packet → Option EngineEvent
  | connAck answer _ => some (.connect answer.code)
  | publish topic qos id retain _ payload =>
    some (.message ⟨id.toNat, some topic.toByteArray, some payload, qos.level, retain⟩)
  | pubAck id => some (.publish id.toNat)
  | pubComp id => some (.publish id.toNat)
  | subAck id results => some (.subscribe id.toNat results.length (results.map resultLevel))
  | unsubAck id => some (.unsubscribe id.toNat)
  | disconnect => some (.disconnect Status.connLost.code)
  | pubRec _ => none
  | pubRel _ => none
  | pingReq => none
  | pingResp => none
  | connect => none
  | subscribe => none
  | unsubscribe => none

/-- The event a written packet is reported as: a publish without a number is complete once written, and a
disconnect request ends the connection. -/
def Outgoing.event? : Outgoing → Option EngineEvent
  | publish id => if id = 0 then some (.publish 0) else none
  | disconnect => some (.disconnect 0)
  | _ => none

/-- The event a failure is reported as. -/
def LinkError.event : LinkError → EngineEvent
  | refused answer => .connect answer.code
  | pingUnanswered => .disconnect keepAliveTimeoutCode
  | _ => .disconnect Status.connLost.code

end BrokerSession
