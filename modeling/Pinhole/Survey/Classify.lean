import Pinhole.Survey.NatType
import Pinhole.Survey.Prober

/-!
# The classification of a NAT

The verdict follows from a few observations, made in a fixed order and only as
far as needed.  A mapping equal to the source means that there is no NAT.
Without a second server endpoint nothing more can be said.  Another mapping
towards that endpoint means a symmetric NAT.  If unsolicited traffic gets
through, the NAT is a full cone, except when the mapping has the source's port
and three new ports are all kept: then the host can be reached directly.  If it
does not get through, the same test after sending from the mapping tells the
restricted cones apart.

An error at any step ends the classification without a verdict.
-/

namespace Pinhole

/-- How many new ports are looked at. -/
def freshPortCount : Nat := 3

/-- Whether as many ports as wanted were seen, each kept by its mapping, and no
port twice.  An entry is the local port and the mapped one. -/
def portsPreserved (ports : List (UInt16 × Option UInt16)) : Bool :=
  ports.length == freshPortCount &&
    ports.all (fun (source, mapped) => mapped == some source) &&
    (ports.map Prod.fst).Nodup

variable {S : Type}

namespace Prober

/-- Exchanges from `count` new ports, and what became of each port. -/
def freshPorts (prober : Prober S) (ip : Ipv4) :
    (count : Nat) → Attempt S (List (UInt16 × Option UInt16))
  | 0 => return []
  | count + 1 => do
      let binding ← prober.freshPort ip
      let others ← freshPorts prober ip count
      return (binding.source.port, binding.mapped.map Endpoint.port) :: others

/-- The verdict and the mapping, as far as no step fails. -/
def verdict (prober : Prober S) : Attempt S (NatType × Endpoint) := do
  let first ← prober.primary
  let mapped ← Attempt.ofResult first.mapping
  if first.source = mapped then
    return (.openInternet, mapped)
  match ← Attempt.always (prober.secondaryEndpoint first) with
  | none => return (.unsupported, mapped)
  | some endpoint =>
      let second ← prober.secondary first endpoint
      if second.mapped ≠ some mapped then
        return (.symmetric, mapped)
      if ← prober.inbound first then
        if mapped.port ≠ first.source.port then
          return (.fullCone, mapped)
        let ports ← freshPorts prober first.source.ip freshPortCount
        if portsPreserved ports then return (.openInternet, mapped)
        else return (.fullCone, mapped)
      if ← prober.inboundAfterWarmUp first then
        return (.restrictedCone, mapped)
      else return (.portRestrictedCone, mapped)

end Prober

/-- The classification that a prober's observations lead to. -/
def classify (transport : Transport) (prober : Prober S) :
    StateM S Classification := do
  match ← prober.verdict.run with
  | .ok (natType, mapped) => return ⟨transport, natType, some mapped, none⟩
  | .error error => return .failed transport error

end Pinhole
