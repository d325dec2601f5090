import Pinhole.Net.Host

/-!
# A host without routes

On an isolated host every unprivileged port can be bound, on any address, but
nothing can be sent anywhere: each datagram and each connection fails at once
because the network is unreachable.  No name is known but its own.
-/

namespace Pinhole

namespace Surroundings

/-- Ports below this one need a privilege. -/
def firstUnprivilegedPort : UInt16 := 1024

/-- A host that is cut off from everything, itself included. -/
def isolated : Surroundings Unit where
  bindFault? := fun _ _ requested =>
    if requested.port ≠ 0 ∧ requested.port < firstUnprivilegedPort then
      some .permissionDenied
    else none
  freePort := fun count => UInt16.ofNat (32768 + count % 28232)
  transaction := fun count => Vector.replicate 12 (UInt8.ofNat count)
  token := fun count => Vector.replicate 16 (UInt8.ofNat count)
  addresses := fun name =>
    if name = "localhost" then .ok [.inl .loopback]
    else
      .error ("failed to lookup address information: " ++
        "Temporary failure in name resolution")
  route := fun _ => .error .networkUnreachable
  deliver := fun _ _ _ => .error .networkUnreachable
  connect := fun _ now _ _ => (.failed now .networkUnreachable, ())
  converse := fun _ _ _ _ _ => (.silence, ())
  visits := fun _ _ _ _ _ => ([], ())

end Surroundings

/-- An isolated host at the start of a run. -/
def Host.isolated : Host Unit :=
  .start .isolated ()

end Pinhole
