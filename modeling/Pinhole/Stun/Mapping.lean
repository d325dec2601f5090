import Pinhole.Stun.Resolve
import Pinhole.Stun.TcpExchange
import Pinhole.Stun.UdpExchange
import Pinhole.Transport

/-!
# Looking up the public mapping

The mapping of a local endpoint is what the server's first IPv4 endpoint
reports in one exchange.
-/

namespace Pinhole

/-- How mappings are looked up. -/
structure MappingLookup where
  transport : Transport
  server : String
  settings : ExchangeSettings
deriving DecidableEq, Repr

variable {σ : Type}

/-- One exchange from a newly bound socket.  A change of the reply's source is
asked for over UDP only. -/
def probe (settings : ExchangeSettings) (transport : Transport)
    (origin server : Endpoint) (change : Change) :
    Attempt (Host σ) Binding :=
  match transport with
  | .tcp => TcpExchange.probe origin server settings
  | .udp => do
      let socket ← Host.bindOrFail origin
      UdpExchange.request socket server change settings

/-- Finds the binding that a local endpoint has. -/
def MappingLookup.binding (lookup : MappingLookup) (origin : Endpoint) :
    Attempt (Host σ) Binding := do
  let (server, _) ← ServerName.endpoints lookup.server
  probe lookup.settings lookup.transport origin server .none

/-- Finds the public endpoint of a local one. -/
def MappingLookup.run (lookup : MappingLookup) (origin : Endpoint) :
    Attempt (Host σ) Endpoint := do
  let binding ← lookup.binding origin
  Attempt.ofResult binding.mapping

end Pinhole
