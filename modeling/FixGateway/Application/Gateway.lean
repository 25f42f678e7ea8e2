import FixGateway.Manager.MessageRouter
import FixGateway.Protocol.Parser.Parse

/-! # The gateway

`FixGateway::onTcpDataReceived` hands the bytes of the connection to the parser and routes
the message that this returns. It is the only producer of the inbound queues. An error of
the parser goes to the error callback.

The pool is shared by the parser, the gateway and those who take messages from the
queues; here it is the parser's. The handler of exceptions around the router, which would
give the message back, is never entered: `routeMessage` is `noexcept`. No message callback
is set.
-/

namespace FixGateway.Application

open ByteScan Common Manager Protocol

/-- `FixGateway`, the class. -/
structure Gateway where
  fixParser : StreamFixParser
  /-- The router and the queues that it shares with the gateway. -/
  messageRouter : MessageRouter

namespace Gateway

/-- The constructor, with the queues it is given if any. -/
def new (messagePoolSize : Nat) (positive : 0 < messagePoolSize)
    (queues : Option PriorityQueueContainer) (now : Nat) : Gateway where
  fixParser := StreamFixParser.new (MessagePool.new FixMessage messagePoolSize positive) {} now
  messageRouter := { queues := queues.getD PriorityQueueContainer.new }

def messagePool (gateway : Gateway) : MessagePool FixMessage := gateway.fixParser.messagePool

/-- The same gateway after others have used its pool. -/
def withPool (gateway : Gateway) (pool : MessagePool FixMessage) : Gateway :=
  { gateway with fixParser := gateway.fixParser.withPool pool }

/-- The call of `parse`. -/
def parse (gateway : Gateway) (clock : Clock) (outside : Memory) (buffer : Bytes) :
    Except Fault (ParseResult × Gateway) := do
  let (result, fixParser) ← gateway.fixParser.parse clock outside buffer
  .ok (result, { gateway with fixParser := fixParser })

/-- What the error callback is told about a result. -/
def errorReport (result : ParseResult) : Option Bytes :=
  match result.status with
  | .invalidFormat => some (ascii "Parse error: " ++ result.errorDetail)
  | .checksumError => some (ascii "Checksum validation failed")
  | .allocationFailed => some (ascii "Message pool allocation failed")
  | _ => none

/-- The message of a result that is to be processed. -/
def toProcess (result : ParseResult) : Option Nat :=
  if result.status = .success then result.parsedMessage else none

/-- `processParsedMessage`; a null pointer is only logged. -/
def processParsedMessage (gateway : Gateway) : Option Nat → Gateway
  | none => gateway
  | some slot =>
    { gateway with
      messageRouter := gateway.messageRouter.routeMessage
        ((gateway.messagePool.objects slot).map (slot, ·)) }

/-- `onTcpDataReceived`, with what the error callback is told. -/
def onTcpDataReceived (gateway : Gateway) (clock : Clock) (outside : Memory) (buffer : Bytes) :
    Except Fault (Option Bytes × Gateway) := do
  let (result, gateway) ← gateway.parse clock outside buffer
  .ok (errorReport result, gateway.processParsedMessage (toProcess result))

end Gateway

end FixGateway.Application
