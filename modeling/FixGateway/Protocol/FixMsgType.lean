import FixGateway.Protocol.FixMessage

/-! # Message types

The enumeration of the message types and the conversion from the value of a MsgType
field, which is handed over as a C string and so ends at its first zero byte.
-/

namespace FixGateway.Protocol

open ByteScan

inductive FixMsgType where
  | heartbeat
  | testRequest
  | resendRequest
  | reject
  | sequenceReset
  | logout
  | logon
  | executionReport
  | orderCancelReject
  | newOrderSingle
  | orderCancelRequest
  | orderCancelReplaceRequest
  | orderStatusRequest
  | marketDataRequest
  | marketDataSnapshot
  | marketDataIncrementalRefresh
  | marketDataRequestReject
  | unknown
  deriving DecidableEq, Repr

namespace FixMsgType

/-- The characters of the types, in the order in which `fromString` compares them. -/
def table : List (Bytes × FixMsgType) :=
  [(ascii "0", heartbeat), (ascii "1", testRequest), (ascii "2", resendRequest),
    (ascii "3", reject), (ascii "4", sequenceReset), (ascii "5", logout), (ascii "A", logon),
    (ascii "8", executionReport), (ascii "9", orderCancelReject), (ascii "D", newOrderSingle),
    (ascii "F", orderCancelRequest), (ascii "G", orderCancelReplaceRequest),
    (ascii "H", orderStatusRequest), (ascii "V", marketDataRequest),
    (ascii "W", marketDataSnapshot), (ascii "X", marketDataIncrementalRefresh),
    (ascii "Y", marketDataRequestReject)]

/-- `FixMsgTypeUtils::fromString` of a C string. -/
def fromString (text : Bytes) : FixMsgType :=
  ((table.find? fun entry => entry.1 = text.takeWhile (· ≠ 0)).map Prod.snd).getD unknown

end FixMsgType

/-- The type that the current MsgType field says, which is unknown when there is none. -/
def FixMessage.typeOf (fields : FieldMap) : FixMsgType :=
  match fields.lookup FixFields.msgType with
  | none => .unknown
  | some text => FixMsgType.fromString text

end FixGateway.Protocol
