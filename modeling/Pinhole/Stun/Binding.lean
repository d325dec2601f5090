import Pinhole.Net.Clock
import Pinhole.Stun.AddressAttribute
import Pinhole.Stun.Error

/-!
# What a binding exchange tells

A binding is what a client learns from one exchange with a server.  An answer
counts only if it carries the request's transaction identifier, is no error
response and is a binding success response, looked at in this order; then its
addresses are read.
-/

namespace Pinhole

/-- The outcome of one exchange. -/
structure Binding where
  /-- The local endpoint the request left from. -/
  source : Endpoint
  /-- The server's endpoint that was asked. -/
  server : Endpoint
  /-- The client's endpoint as the server saw it. -/
  mapped : Option Endpoint
  /-- The server's other endpoint, if it tells one. -/
  other : Option Endpoint
deriving DecidableEq, Repr

/-- How long each attempt waits, and how often a datagram is sent again. -/
structure ExchangeSettings where
  timeout : Duration := Duration.seconds 3
  retries : UInt32 := 2
deriving DecidableEq, Repr

namespace Message

/-- Whether a message is a success response to a request. -/
def check (request answer : Message) : Except ProtocolError Unit :=
  if answer.transaction ≠ request.transaction then
    .error .transactionMismatch
  else if answer.messageClass = .errorResponse then
    .error (.errorResponse answer.type)
  else if answer.type ≠ bindingResponse then
    .error (.unexpectedMessageType answer.type)
  else .ok ()

end Message

namespace Binding

/-- The addresses of a success response. -/
def ofAnswer (source server : Endpoint) (answer : Message) :
    Except ProtocolError Binding := do
  let mapped ← answer.mappedAddress
  let other ← answer.otherAddress
  return ⟨source, server, mapped, other⟩

/-- The mapping, which a client cannot do without. -/
def mapping (binding : Binding) : Except StunError Endpoint :=
  match binding.mapped with
  | some mapped => .ok mapped
  | none => .error .missingMappedAddress

end Binding

end Pinhole
