import Pinhole.Net.Endpoint
import Pinhole.Net.SystemError

/-!
# Why a forward engine stops

An engine cannot start if its socket cannot be bound.  Once it runs it stops
when the public mapping no longer leads back to it, which is told apart from
every other failure.
-/

namespace Pinhole

inductive ForwardError where
  | bind (address : Endpoint) (cause : SystemError)
  | mappingLost (reason : String)
  | system (cause : SystemError)
deriving DecidableEq, Repr

namespace ForwardError

def message : ForwardError → String
  | bind address cause => s!"cannot bind {address.text}: {cause.text}"
  | mappingLost reason => s!"public mapping lost: {reason}"
  | system cause => s!"I/O error: {cause.text}"

/-- A part of the keepalive failed for some cause. -/
def lost (part cause : String) : ForwardError :=
  mappingLost s!"{part}: {cause}"

def isMappingLost : ForwardError → Bool
  | mappingLost _ => true
  | bind .. | system _ => false

end ForwardError

end Pinhole
