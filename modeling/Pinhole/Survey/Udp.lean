import Pinhole.Stun.Resolve
import Pinhole.Stun.UdpExchange
import Pinhole.Survey.Classify

/-!
# Classification over UDP

All exchanges but those from new ports go through one socket, so the mapping
stays the same.  Whether unsolicited traffic gets through is found by asking
the server to answer from its other endpoint.  Sending to that endpoint would
open the filter for its replies, so the filtering is measured before the second
endpoint is contacted, and kept for the later steps.
-/

namespace Pinhole

/-- The exchanges a UDP prober makes: from its socket, and from a new one. -/
structure UdpLine (S : Type) where
  request : Endpoint → Change → Attempt S Binding
  requestAfresh : Ipv4 → Endpoint → Attempt S Binding

/-- Which replies got through when nothing but the primary endpoint had been
contacted.  The second is looked at only if the first did not. -/
structure Filtering where
  ipAndPort : Bool
  port : Option Bool
deriving DecidableEq, Repr

/-- The advertised endpoint, if it is not on the address that was asked. -/
def advertisedEndpoint (first : Binding) : Option Endpoint :=
  first.other.filter (fun other => other.ip ≠ first.server.ip)

namespace UdpLine

variable {S : Type}

/-- Uses a line beside what is known about the filtering. -/
def lift {α : Type} (operation : Attempt S α) :
    Attempt (S × Option Filtering) α :=
  ExceptT.mk fun (state, filtering) =>
    let (result, state) := operation.run state
    (result, state, filtering)

/-- Whether the server's reply from elsewhere gets through. -/
def changedReply (line : UdpLine S) (primary : Endpoint) (change : Change) :
    Attempt S Bool :=
  ExceptT.mk do
    match ← (line.request primary change).run with
    | .ok _ => return .ok true
    | .error (.timeout _) => return .ok false
    | .error error => return .error error

/-- Asks for a reply from the other endpoint, and only if none comes for one
from the other port. -/
def measureFiltering (line : UdpLine S) (primary : Endpoint) :
    Attempt S Filtering := do
  if ← line.changedReply primary .ipAndPort then
    return ⟨true, none⟩
  else
    let port ← line.changedReply primary .portOnly
    return ⟨false, some port⟩

/-- The filtering if it is known. -/
def knownFiltering : Attempt (S × Option Filtering) (Option Filtering) := do
  return (← get).2

/-- Measures the filtering unless it is known. -/
def ensureFiltering (line : UdpLine S) (primary : Endpoint) :
    Attempt (S × Option Filtering) Unit := do
  match ← knownFiltering with
  | some _ => return
  | none =>
      let filtering ← lift (line.measureFiltering primary)
      modify fun (state, _) => (state, some filtering)

/-- The prober that works through a line to a server. -/
def prober (line : UdpLine S) (primary : Endpoint) :
    Prober (S × Option Filtering) where
  primary := lift (line.request primary .none)
  secondaryEndpoint := fun first => return advertisedEndpoint first
  secondary := fun _ endpoint => do
    line.ensureFiltering primary
    lift (line.request endpoint .none)
  inbound := fun _ => do
    match ← knownFiltering with
    | some filtering => return filtering.ipAndPort
    | none => lift (line.changedReply primary .ipAndPort)
  inboundAfterWarmUp := fun _ => do
    match (← knownFiltering).bind Filtering.port with
    | some port => return port
    | none => lift (line.changedReply primary .portOnly)
  freshPort := fun ip => lift (line.requestAfresh ip primary)

variable {σ : Type}

/-- The line through a bound socket of a host. -/
def ofSocket (socket : Endpoint) (settings : ExchangeSettings) :
    UdpLine (Host σ) where
  request := fun server change =>
    UdpExchange.request socket server change settings
  requestAfresh := fun ip server => do
    let fresh ← Host.bindOrFail ⟨ip, 0⟩
    UdpExchange.request fresh server .none settings

end UdpLine

variable {σ : Type}

/-- Classifies with a server whose primary endpoint is known. -/
def classifyUdpWith (settings : ExchangeSettings) (origin primary : Endpoint) :
    StateM (Host σ) Classification := do
  match ← (Host.bindOrFail origin).run with
  | .error error => return .failed .udp error
  | .ok socket =>
      fun host =>
        let prober := (UdpLine.ofSocket socket settings).prober primary
        let (classification, host, _) := classify .udp prober (host, none)
        (classification, host)

/-- Classifies the NAT in front of a local endpoint over UDP. -/
def classifyUdp (server : String) (settings : ExchangeSettings)
    (origin : Endpoint) : StateM (Host σ) Classification := do
  match ← (ServerName.endpoints server).run with
  | .error error => return .failed .udp error
  | .ok (primary, _) => classifyUdpWith settings origin primary

end Pinhole
