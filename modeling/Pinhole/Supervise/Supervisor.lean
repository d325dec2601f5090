import Pinhole.Dns.Publication
import Pinhole.Supervise.SharedMode

/-!
# The supervisor

A supervisor runs in one of two modes and keeps the publications that it has
started and that are not over.  A publication runs beside everything else: it
neither delays the supervisor nor ends with what the supervisor does next.
-/

namespace Pinhole

namespace Supervisor

/-- The number of a publication. -/
abbrev PublicationId := Nat

inductive Mode where
  /-- Forwarding by an engine. -/
  | forward (mode : ForwardMode)
  /-- A service on the mapped port itself. -/
  | shared (mode : SharedMode)
deriving DecidableEq, Repr

inductive Event where
  | lookedUp (outcome : Except StunError Endpoint)
  | engineEnded (outcome : Except ForwardError Unit)
  | checked (liveness : Liveness)
  /-- A provider answered the call of a publication. -/
  | answered (publication : PublicationId) (outcome : Except String Unit)
  /-- Nothing but time. -/
  | tick

inductive Effect where
  | lookUp
  | startEngine (mapped : Endpoint)
  | checkService
  | checkMapping (mapped : Endpoint)
  | callProvider (publication : PublicationId) (record : DnsRecord)
  | log (line : LogLine)
deriving DecidableEq, Repr

end Supervisor

structure Supervisor where
  /-- The name under which mappings are published. -/
  name : DnsName
  mode : Supervisor.Mode
  publications : List (Supervisor.PublicationId × Publication)
  /-- How many publications were started. -/
  started : Nat
deriving DecidableEq, Repr

namespace Supervisor

def updated : LogLine := ⟨.info, "DNS updated"⟩

def gaveUp : LogLine := ⟨.error, "DNS update gave up"⟩

def callFailed (reason : String) : LogLine :=
  ⟨.error, "DNS update failed: " ++ reason⟩

/-- Starts the publication of a mapping. -/
def publish (supervisor : Supervisor) (mapped : Endpoint) :
    Supervisor × List Effect :=
  let record : DnsRecord := ⟨supervisor.name, mapped⟩
  let id := supervisor.started
  let supervisor := { supervisor with started := id + 1 }
  match Publication.start record Publication.supervisedCalls with
  | .under publication =>
      ({ supervisor with
          publications := supervisor.publications ++ [(id, publication)] },
        [.callProvider id record])
  | .published => (supervisor, [.log updated])
  | .gaveUp => (supervisor, [.log gaveUp])

/-- Carries out what the forward mode asks for. -/
def ofForward (supervisor : Supervisor) :
    List ForwardMode.Effect → Supervisor × List Effect
  | [] => (supervisor, [])
  | effect :: later =>
      let (supervisor, effects) : Supervisor × List Effect :=
        match effect with
        | .lookUp => (supervisor, [.lookUp])
        | .publish mapped => supervisor.publish mapped
        | .startEngine mapped => (supervisor, [.startEngine mapped])
        | .log line => (supervisor, [.log line])
      let (supervisor, rest) := supervisor.ofForward later
      (supervisor, effects ++ rest)

/-- Carries out what the shared mode asks for. -/
def ofShared (supervisor : Supervisor) :
    List SharedMode.Effect → Supervisor × List Effect
  | [] => (supervisor, [])
  | effect :: later =>
      let (supervisor, effects) : Supervisor × List Effect :=
        match effect with
        | .checkService => (supervisor, [.checkService])
        | .checkMapping mapped => (supervisor, [.checkMapping mapped])
        | .lookUp => (supervisor, [.lookUp])
        | .publish mapped => supervisor.publish mapped
        | .log line => (supervisor, [.log line])
      let (supervisor, rest) := supervisor.ofShared later
      (supervisor, effects ++ rest)

/-- A supervisor that forwards through an engine. -/
def startForward (name : DnsName) : Supervisor × List Effect :=
  let (mode, effects) := ForwardMode.start
  Supervisor.ofForward ⟨name, .forward mode, [], 0⟩ effects

/-- A supervisor of a service on the mapped port. -/
def startShared (name : DnsName) : Supervisor × List Effect :=
  let (mode, effects) := SharedMode.start
  Supervisor.ofShared ⟨name, .shared mode, [], 0⟩ effects

/-- The event as the forward mode knows it. -/
def Event.toForward? : Event → Option ForwardMode.Event
  | .lookedUp outcome => some (.lookedUp outcome)
  | .engineEnded outcome => some (.engineEnded outcome)
  | .tick => some .tick
  | .checked _ | .answered .. => none

/-- The event as the shared mode knows it. -/
def Event.toShared? : Event → Option SharedMode.Event
  | .lookedUp outcome => some (.lookedUp outcome)
  | .checked liveness => some (.checked liveness)
  | .tick => some .tick
  | .engineEnded _ | .answered .. => none

/-- What the mode does about an event. -/
def stepMode (supervisor : Supervisor) (now : Instant) (event : Event) :
    Supervisor × List Effect :=
  match supervisor.mode with
  | .forward mode =>
      match event.toForward? with
      | none => (supervisor, [])
      | some event =>
          let (mode, effects) := mode.step now event
          { supervisor with mode := .forward mode }.ofForward effects
  | .shared mode =>
      match event.toShared? with
      | none => (supervisor, [])
      | some event =>
          let (mode, effects) := mode.step now event
          { supervisor with mode := .shared mode }.ofShared effects

/-- The call of a publication was answered. -/
def answer (supervisor : Supervisor) (now : Instant) (id : PublicationId)
    (outcome : Except String Unit) : Supervisor × List Effect :=
  match supervisor.publications.lookup id with
  | none => (supervisor, [])
  | some publication =>
      let others := supervisor.publications.filter (fun entry => entry.1 ≠ id)
      let (success, failed) :=
        match outcome with
        | .ok () => (true, [])
        | .error reason => (false, [Effect.log (callFailed reason)])
      match publication.answered now Publication.supervisedPause success with
      | .published =>
          ({ supervisor with publications := others },
            failed ++ [.log updated])
      | .gaveUp =>
          ({ supervisor with publications := others },
            failed ++ [.log gaveUp])
      | .under publication =>
          ({ supervisor with publications := others ++ [(id, publication)] },
            failed)

/-- Ends the pauses of publications that are over. -/
def resume (supervisor : Supervisor) (now : Instant) :
    Supervisor × List Effect :=
  ({ supervisor with
      publications := supervisor.publications.map fun entry =>
        (entry.1, (entry.2.resume? now).getD entry.2) },
    supervisor.publications.filterMap fun entry =>
      (entry.2.resume? now).map fun publication =>
        .callProvider entry.1 publication.record)

/-- What one event does. -/
def step (supervisor : Supervisor) (now : Instant) (event : Event) :
    Supervisor × List Effect :=
  match event with
  | .answered id outcome => supervisor.answer now id outcome
  | .tick =>
      let (supervisor, effects) := supervisor.stepMode now .tick
      let (supervisor, calls) := supervisor.resume now
      (supervisor, effects ++ calls)
  | event => supervisor.stepMode now event

/-- What a sequence of events does, each effect with its instant. -/
def run (supervisor : Supervisor) :
    List (Instant × Event) → Supervisor × List (Instant × Effect)
  | [] => (supervisor, [])
  | (now, event) :: later =>
      let (supervisor, effects) := supervisor.step now event
      let (supervisor, rest) := supervisor.run later
      (supervisor, effects.map (now, ·) ++ rest)

end Supervisor

end Pinhole
