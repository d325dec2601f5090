import Pinhole.Forward.Error
import Pinhole.Log
import Pinhole.Net.Clock
import Pinhole.Stun.Error

/-!
# Supervision of a forwarding engine

The mapping is looked up, published and handed to an engine; when the engine
stops, everything starts again after a delay.  The supervisor waits for one
thing at a time: the outcome of a look-up, the end of the engine, or the end of
a pause.  What it waits for next is told as an effect.
-/

namespace Pinhole

namespace ForwardMode

/-- The pause after a look-up that failed. -/
def lookupPause : Duration := .seconds 10

/-- The pause after an engine that stopped. -/
def restartPause : Duration := .seconds 5

inductive Event where
  | lookedUp (outcome : Except StunError Endpoint)
  /-- The engine stopped, or could not be started. -/
  | engineEnded (outcome : Except ForwardError Unit)
  /-- Nothing but time. -/
  | tick

inductive Effect where
  | lookUp
  | publish (mapped : Endpoint)
  | startEngine (mapped : Endpoint)
  | log (line : LogLine)
deriving DecidableEq, Repr

end ForwardMode

/-- What the supervisor waits for. -/
inductive ForwardMode where
  | lookingUp
  | running (mapped : Endpoint)
  | pausing (wakeUp : Instant)
deriving DecidableEq, Repr

/-- The report of a look-up that failed. -/
def StunError.lookupReport (error : StunError) : LogLine :=
  ⟨.error, "cannot resolve public mapping: " ++ error.message⟩

/-- The report of an engine that stopped. -/
def ForwardError.engineReport : Except ForwardError Unit → LogLine
  | .ok () => ⟨.warn, "port forwarding stopped, restarting"⟩
  | .error error =>
      if error.isMappingLost then
        ⟨.warn, "mapping lost, restarting: " ++ error.message⟩
      else ⟨.warn, "port forwarding failed, restarting: " ++ error.message⟩

namespace ForwardMode

def start : ForwardMode × List Effect :=
  (lookingUp, [.lookUp])

/-- What one event does; an event that is not waited for does nothing. -/
def step (mode : ForwardMode) (now : Instant) (event : Event) :
    ForwardMode × List Effect :=
  match mode, event with
  | lookingUp, .lookedUp (.ok mapped) =>
      (running mapped, [.publish mapped, .startEngine mapped])
  | lookingUp, .lookedUp (.error error) =>
      (pausing (now + lookupPause), [.log error.lookupReport])
  | running _, .engineEnded outcome =>
      (pausing (now + restartPause),
        [.log (ForwardError.engineReport outcome)])
  | pausing wakeUp, .tick =>
      if wakeUp ≤ now then (lookingUp, [.lookUp]) else (mode, [])
  | _, _ => (mode, [])

end ForwardMode

end Pinhole
