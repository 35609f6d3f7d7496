/-!
# Why a connection came up or went down

The broker answers a connect request with a code, and a connection that ends does so for a reason. Both
arrive as integers; every integer has a reading, and unforeseen ones are kept as they are.

## Main definitions

* `ConnectCode` - the broker's answer to a connect request
* `LossReason` - why a connection ended
* `keepAliveTimeoutCode` - the integer that stands for an expired keep-alive
-/

namespace BrokerSession

/-- The broker's answer to a connect request. -/
inductive ConnectCode where
  | success
  | unacceptableProtocolVersion
  | identifierRejected
  | brokerUnavailable
  /-- Any other answer, kept as it came. -/
  | unknown (raw : Int)
  deriving DecidableEq, Repr, Inhabited

namespace ConnectCode

/-- The answer an integer stands for. -/
def ofCode (raw : Int) : ConnectCode :=
  if raw = 0 then success
  else if raw = 1 then unacceptableProtocolVersion
  else if raw = 2 then identifierRejected
  else if raw = 3 then brokerUnavailable
  else unknown raw

/-- Whether the broker accepted the connection. -/
def isSuccess (c : ConnectCode) : Bool := c == success

/-- The text shown to people. -/
def message : ConnectCode → String
  | success => "Success"
  | unacceptableProtocolVersion => "Unacceptable_Protocol_Version"
  | identifierRejected => "Identifier_Rejected"
  | brokerUnavailable => "Broker_Unavailable"
  | unknown raw => "Unknown(" ++ toString raw ++ ")"

/-- Only the integer `0` is an acceptance. -/
@[simp] theorem isSuccess_ofCode (raw : Int) : (ofCode raw).isSuccess = decide (raw = 0) := by
  unfold ofCode
  repeat' split
  all_goals simp_all [isSuccess]

end ConnectCode

/-- The integer an engine uses for a keep-alive interval that passed without traffic. -/
def keepAliveTimeoutCode : Int := 19

/-- Why a connection ended. -/
inductive LossReason where
  /-- The client asked for it. -/
  | requested
  /-- Nothing was heard from the broker within the keep-alive interval. -/
  | keepAliveTimeout
  /-- The transport failed; the engine's integer is kept. -/
  | transport (raw : Int)
  deriving DecidableEq, Repr, Inhabited

namespace LossReason

/-- The reason an integer stands for. -/
def ofCode (raw : Int) : LossReason :=
  if raw = 0 then requested
  else if raw = keepAliveTimeoutCode then keepAliveTimeout
  else transport raw

/-- Whether the client asked for the end of the connection. -/
def isRequested (r : LossReason) : Bool := r == requested

/-- The text shown to people. -/
def message : LossReason → String
  | requested => "Disconnect_Requested"
  | keepAliveTimeout => "Keepalive_Timeout"
  | transport raw => "Transport(" ++ toString raw ++ ")"

/-- Only the integer `0` is a loss the client asked for. -/
@[simp] theorem isRequested_ofCode (raw : Int) : (ofCode raw).isRequested = decide (raw = 0) := by
  unfold ofCode
  repeat' split
  all_goals simp_all [isRequested]

end LossReason

end BrokerSession
