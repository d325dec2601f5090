import Pinhole.Stun.Attempt
import Pinhole.Stun.Stream

/-!
# Reaching oneself through the mapping

Whether unsolicited connections get through is found by listening on the local
endpoint while the public one is dialled: the test succeeds if the first
connection that is accepted brings a random token within the time allowed.
Whatever else happens, the dialling included, does not matter.
-/

namespace Pinhole

namespace Loopback

/-- How many bytes the token has. -/
def tokenLength : Nat := 16

/-- The bytes of the first connection accepted before the deadline, if enough
of them arrive before it, with the instant they are there; otherwise the
instant at which nothing more can be hoped for. -/
def receive (deadline : Instant) : List Visit → Instant × Option Bytes
  | [] => (deadline, none)
  | visit :: _ =>
      if visit.time < deadline then
        match visit.incoming.read (Incoming.exactly? tokenLength) deadline with
        | .complete time bytes => (max visit.time time, some bytes)
        | .ended time _ => (max visit.time time, none)
        | .late => (deadline, none)
      else (deadline, none)

variable {σ : Type}

/-- Listens on `origin` while `mapped` is dialled.  Only binding can fail. -/
def test (origin mapped : Endpoint) (wait : Duration) :
    Attempt (Host σ) Bool := do
  let listener ← Host.bindOrFail origin
  let token ← Attempt.always Host.drawToken
  let start ← get
  let visits ← Attempt.always
    (Host.visits listener mapped token.toList)
  let (time, received) := receive (start.now + wait) visits
  Attempt.always (Host.waitUntil time)
  return received = some token.toList

/-- Opens the mapping towards itself by a connection whose outcome does not
matter. -/
def warmUp (origin mapped : Endpoint) (wait : Duration) :
    StateM (Host σ) Unit := do
  match ← Host.bind origin with
  | .error _ => return
  | .ok socket =>
      let _ ← Host.connect socket mapped wait
      return

end Loopback

end Pinhole
