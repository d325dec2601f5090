import Pinhole.Supervise.ForwardMode
import Pinhole.Supervise.Liveness
import Pinhole.Supervise.RepeatFilter

/-!
# Supervision of a shared port

A service that listens on the mapped port itself needs no engine.  While it is
up, its mapping is looked up, published and then checked again and again until
it can no longer be reached from outside; then everything starts over.
-/

namespace Pinhole

namespace SharedMode

/-- The pause after a check that found the service down. -/
def servicePause : Duration := .seconds 10

/-- The pause after a check that found the mapping up. -/
def mappingPause : Duration := .seconds 1

inductive Event where
  /-- The outcome of the check that was made last. -/
  | checked (liveness : Liveness)
  | lookedUp (outcome : Except StunError Endpoint)
  /-- Nothing but time. -/
  | tick

inductive Effect where
  | checkService
  | checkMapping (mapped : Endpoint)
  | lookUp
  | publish (mapped : Endpoint)
  | log (line : LogLine)
deriving DecidableEq, Repr

/-- What the supervisor waits for. -/
inductive Phase where
  | checkingService
  | lookingUp
  | checkingMapping (mapped : Endpoint)
  /-- Until the service is checked again. -/
  | pausing (wakeUp : Instant)
  /-- Until the mapping is checked again. -/
  | watching (mapped : Endpoint) (wakeUp : Instant)
deriving DecidableEq, Repr

end SharedMode

structure SharedMode where
  phase : SharedMode.Phase
  serviceFilter : RepeatFilter
  mappingFilter : RepeatFilter
deriving DecidableEq, Repr

namespace SharedMode

def start : SharedMode × List Effect :=
  ({ phase := .checkingService
     serviceFilter := .new RepeatFilter.serviceChecks
     mappingFilter := .new RepeatFilter.mappingChecks },
    [.checkService])

/-- The service was checked. -/
def serviceChecked (mode : SharedMode) (now : Instant) (liveness : Liveness) :
    SharedMode × List Effect :=
  let (allowed, filter) := mode.serviceFilter.offer liveness.message
  let mode := { mode with serviceFilter := filter }
  if liveness.online then
    ({ mode with phase := .lookingUp },
      (if allowed then [.log ⟨.info, "local service online"⟩] else []) ++
        [.lookUp])
  else
    ({ mode with phase := .pausing (now + servicePause) },
      if allowed then
        [.log ⟨.warn, "local service offline: " ++ liveness.message⟩]
      else [])

/-- The mapping was checked. -/
def mappingChecked (mode : SharedMode) (now : Instant) (mapped : Endpoint)
    (liveness : Liveness) : SharedMode × List Effect :=
  if liveness.online then
    let (allowed, filter) := mode.mappingFilter.offer liveness.message
    ({ mode with
        phase := .watching mapped (now + mappingPause)
        mappingFilter := filter },
      if allowed then [.log ⟨.info, "mapped address online"⟩] else [])
  else
    ({ mode with phase := .checkingService },
      [.log ⟨.warn,
          "mapped address offline: " ++ liveness.message ++ ", remapping"⟩,
        .checkService])

/-- What one event does; an event that is not waited for does nothing. -/
def step (mode : SharedMode) (now : Instant) (event : Event) :
    SharedMode × List Effect :=
  match mode.phase, event with
  | .checkingService, .checked liveness => mode.serviceChecked now liveness
  | .lookingUp, .lookedUp (.ok mapped) =>
      ({ mode with
          phase := .checkingMapping mapped
          mappingFilter := .new RepeatFilter.mappingChecks },
        [.publish mapped, .checkMapping mapped])
  | .lookingUp, .lookedUp (.error error) =>
      ({ mode with phase := .pausing (now + ForwardMode.lookupPause) },
        [.log error.lookupReport])
  | .checkingMapping mapped, .checked liveness =>
      mode.mappingChecked now mapped liveness
  | .pausing wakeUp, .tick =>
      if wakeUp ≤ now then
        ({ mode with phase := .checkingService }, [.checkService])
      else (mode, [])
  | .watching mapped wakeUp, .tick =>
      if wakeUp ≤ now then
        ({ mode with phase := .checkingMapping mapped },
          [.checkMapping mapped])
      else (mode, [])
  | _, _ => (mode, [])

end SharedMode

end Pinhole
