import Pinhole.Stun.Resolve
import Pinhole.Stun.TcpExchange
import Pinhole.Survey.Classify
import Pinhole.Survey.Loopback

/-!
# Classification over TCP

Each exchange has a connection of its own.  The second server endpoint is the
advertised one; a server that advertises none may have a second address under
the same name instead.  Whether unsolicited connections get through is found by
dialling the mapping.
-/

namespace Pinhole

/-- How long the test of the mapping waits. -/
def loopbackWait : Duration := .seconds 2

/-- How long the connection that warms the mapping up may take. -/
def warmUpWait : Duration := .seconds 1

/-- What a TCP prober does on the network. -/
structure TcpLine (S : Type) where
  exchange : (origin server : Endpoint) → Attempt S Binding
  loopback : (origin mapped : Endpoint) → Attempt S Bool
  warmUp : (origin mapped : Endpoint) → StateM S Unit

/-- The advertised endpoint or, if none is advertised, the alternate one,
unless it is on the address that was asked. -/
def advertisedOrAlternate (alternate : Option Endpoint) (first : Binding) :
    Option Endpoint :=
  match first.other with
  | some other => if other.ip ≠ first.server.ip then some other else none
  | none => alternate.filter (fun other => other.ip ≠ first.server.ip)

namespace TcpLine

variable {S : Type}

/-- The prober of a local endpoint, a server and the server's second address. -/
def prober (line : TcpLine S) (origin primary : Endpoint)
    (alternate : Option Endpoint) : Prober S where
  primary := line.exchange origin primary
  secondaryEndpoint := fun first => return advertisedOrAlternate alternate first
  secondary := fun first endpoint => line.exchange first.source endpoint
  inbound := fun first => do
    let mapped ← Attempt.ofResult first.mapping
    line.loopback first.source mapped
  inboundAfterWarmUp := fun first => do
    let mapped ← Attempt.ofResult first.mapping
    Attempt.always (line.warmUp first.source mapped)
    line.loopback first.source mapped
  freshPort := fun ip => line.exchange ⟨ip, 0⟩ primary

variable {σ : Type}

/-- The network of a host. -/
def ofHost (settings : ExchangeSettings) : TcpLine (Host σ) where
  exchange := fun origin server => TcpExchange.probe origin server settings
  loopback := fun origin mapped => Loopback.test origin mapped loopbackWait
  warmUp := fun origin mapped => Loopback.warmUp origin mapped warmUpWait

end TcpLine

variable {σ : Type}

/-- Classifies the NAT in front of a local endpoint over TCP. -/
def classifyTcp (server : String) (settings : ExchangeSettings)
    (origin : Endpoint) : StateM (Host σ) Classification := do
  match ← (ServerName.endpoints server).run with
  | .error error => return .failed .tcp error
  | .ok (primary, others) =>
      classify .tcp
        ((TcpLine.ofHost settings).prober origin primary others.head?)

end Pinhole
