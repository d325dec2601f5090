import Pinhole.Net.SocketAddress
import Pinhole.Net.SystemError
import Pinhole.Stun.ProtocolError

/-!
# Failures of a binding exchange

Everything that can keep a client from learning its mapping, sorted into four
categories for diagnosis.
-/

namespace Pinhole

inductive StunError where
  | bind (address : Endpoint) (cause : SystemError)
  | connect (server : Endpoint) (cause : SystemError)
  /-- No valid answer within the time allowed. -/
  | timeout (server : Endpoint)
  | protocol (error : ProtocolError)
  /-- A valid answer that does not tell the client's IPv4 endpoint. -/
  | missingMappedAddress
  | resolve (host reason : String)
  | unsupportedAddress (address : SocketAddress)
  | system (cause : SystemError)
deriving DecidableEq, Repr

namespace StunError

def message : StunError → String
  | bind address cause => s!"cannot bind {address.text}: {cause.text}"
  | connect server cause =>
      s!"cannot connect to STUN server {server.text}: {cause.text}"
  | timeout server => s!"no valid reply from STUN server {server.text}"
  | protocol error => s!"STUN protocol error: {error.message}"
  | missingMappedAddress => "STUN response carries no IPv4 mapped address"
  | resolve host reason => s!"cannot resolve STUN server {host}: {reason}"
  | unsupportedAddress address =>
      s!"unsupported address family: {address.text}"
  | system cause => s!"I/O error: {cause.text}"

/-- What to look at first when an exchange fails. -/
inductive Category where
  /-- The local address. -/
  | bind
  /-- The way to the server. -/
  | connect
  /-- The server's silence. -/
  | timeout
  /-- The server's answer. -/
  | protocol
deriving DecidableEq, Repr

def category : StunError → Category
  | bind .. => .bind
  | connect .. | resolve .. => .connect
  | timeout _ => .timeout
  | system cause => if cause.kind = .timedOut then .timeout else .connect
  | protocol _ | missingMappedAddress | unsupportedAddress _ => .protocol

end StunError

end Pinhole
