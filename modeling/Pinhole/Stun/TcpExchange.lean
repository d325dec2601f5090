import Pinhole.Stun.Attempt
import Pinhole.Stun.Stream

/-!
# A binding exchange over TCP

A connection is made from the local endpoint, the request is written, and
exactly one message is read: its header first, then as many bytes as the header
declares.  Connecting and the exchange each have the whole timeout.  Every call
on the connection may fail, also those that only ask for its addresses.
-/

namespace Pinhole

namespace TcpExchange

/-- The first message of a stream, once all of it is there. -/
def frame? (bytes : Bytes) : Option Bytes := do
  let header ← Incoming.exactly? Message.headerLength bytes
  match Message.declaredLength header with
  | .ok declared => Incoming.exactly? (Message.headerLength + declared) bytes
  | .error _ => none

/-- The result of reading one answer to a request from a stream, with the
instant it is known. -/
def readAnswer (server : Endpoint) (request : Message) (deadline : Instant)
    (incoming : Incoming) : Instant × Except StunError Message :=
  match incoming.read frame? deadline with
  | .late => (deadline, .error (.timeout server))
  | .ended time .closed => (time, .error (.system .unexpectedEnd))
  | .ended time (.failed cause) => (time, .error (.system cause))
  | .complete time frame =>
      (time,
        (do
          let answer ← Message.decode frame
          request.check answer
          return answer : Except ProtocolError Message).mapError .protocol)

variable {σ : Type}

/-- Connects from a bound socket to the server and tells the local endpoint of
the connection. -/
def connect (socket server : Endpoint) (timeout : Duration) :
    Attempt (Host σ) Endpoint := do
  match ← Attempt.always (Host.connect socket server timeout) with
  | none => throw (.timeout server)
  | some (.error cause) => throw (.connect server cause)
  | some (.ok source) => return source

/-- One exchange on a connection.  The system is asked for the two addresses of
the connection when the answer has been looked at, and may know them no more. -/
def exchange (source server : Endpoint) (timeout : Duration) :
    Attempt (Host σ) Binding := do
  Attempt.ofSystem .system (Host.callStream source server .setNoDelay ())
  let request ← Host.newRequest .none
  let start ← get
  Attempt.ofSystem .system (Host.callStream source server .write ())
  let incoming ← Attempt.always
    (Host.converse source server request.encode)
  let (time, answer) := readAnswer server request (start.now + timeout)
    incoming
  Attempt.always (Host.waitUntil time)
  let answer ← Attempt.ofResult answer
  let origin ← Attempt.ofSystem .system
    (Host.callStream source server .localAddress source)
  let peer ← Attempt.ofSystem .system
    (Host.callStream source server .peerAddress server)
  Attempt.ofProtocol (Binding.ofAnswer origin peer answer)

/-- One exchange over a connection of its own. -/
def probe (origin server : Endpoint) (settings : ExchangeSettings) :
    Attempt (Host σ) Binding := do
  let socket ← Host.bindOrFail origin
  let source ← connect socket server settings.timeout
  exchange source server settings.timeout

end TcpExchange

end Pinhole
