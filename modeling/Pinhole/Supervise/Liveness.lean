import Pinhole.Net.Host

/-!
# Whether a service is up

A service is up if it accepts a connection within the time allowed.  The
message says why it is taken to be up or down.
-/

namespace Pinhole

structure Liveness where
  online : Bool
  message : String
deriving DecidableEq, Repr

namespace Liveness

/-- How long a check may take. -/
def checkLimit : Duration := .seconds 10

/-- What an attempt to connect says about the service; none means that the
time was up. -/
def ofOutcome : Option (Except SystemError Endpoint) → Liveness
  | some (.ok _) => ⟨true, "port available"⟩
  | some (.error cause) =>
      if cause.kind = .connectionRefused then ⟨false, "connect refused"⟩
      else ⟨false, cause.text⟩
  | none => ⟨false, "timeout"⟩

/-- Connects to a service from any local port. -/
def check {σ : Type} (service : Endpoint) (limit : Duration) :
    StateM (Host σ) Liveness := do
  return ofOutcome (← Host.connect ⟨.unspecified, 0⟩ service limit)

end Liveness

end Pinhole
