import Pinhole.Forward.Launch
import Pinhole.Net.Isolated
import Pinhole.Stun.Mapping
import Pinhole.Supervise.Supervisor

/-!
# Supervision on an isolated host

On a host without routes everything that a supervisor asks of the network is
answered at once.  So the supervisor comes to rest after every event, with
nothing to wait for but time.
-/

namespace Pinhole

/-- What a supervisor on an isolated host was set up with. -/
structure OfflineSetup where
  lookup : MappingLookup
  origin : Endpoint
  /-- The outcome of each call of the provider, by its number. -/
  provider : Nat → Except String Unit

/-- A supervisor on an isolated host. -/
structure OfflineRun where
  supervisor : Supervisor
  host : Host Unit
  /-- The records that were published, with the outcome. -/
  published : List (DnsRecord × Bool)
  log : List LogLine

namespace OfflineRun

/-- Runs an operation on the host of a run. -/
def onHost {α : Type} (operation : StateM (Host Unit) α) :
    StateM OfflineRun α :=
  fun run =>
    let (result, host) := operation run.host
    (result, { run with host := host })

/-- How an engine that cannot be started ends. -/
def engineEnd (setup : OfflineSetup) (mapped : Endpoint) :
    StateM (Host Unit) (Option (Except ForwardError Unit)) := do
  match ← Engine.launchOn setup.lookup.transport setup.origin mapped with
  | .error error => return some (.error error)
  | .ok _ => return none

/-- The event by which an effect is answered, if it is answered. -/
def perform (setup : OfflineSetup) :
    Supervisor.Effect → StateM OfflineRun (Option Supervisor.Event)
  | .lookUp => do
      let outcome ← onHost (setup.lookup.run setup.origin).run
      return some (.lookedUp outcome)
  | .startEngine mapped => do
      let ended? ← onHost (engineEnd setup mapped)
      return ended?.map .engineEnded
  | .checkService => do
      let service := ⟨.loopback, setup.origin.port⟩
      return some (.checked
        (← onHost (Liveness.check service Liveness.checkLimit)))
  | .checkMapping mapped => do
      return some (.checked
        (← onHost (Liveness.check mapped Liveness.checkLimit)))
  | .callProvider publication record => do
      let run ← get
      let outcome := setup.provider run.published.length
      set { run with
        published := run.published ++ [(record, outcome.isOk)] }
      return some (.answered publication outcome)
  | .log line => do
      modify fun run => { run with log := run.log ++ [line] }
      return none

/-- Passes an event to the supervisor; what it asks for. -/
def react (event : Supervisor.Event) :
    StateM OfflineRun (List Supervisor.Effect) :=
  fun run =>
    let (supervisor, effects) := run.supervisor.step run.host.now event
    (effects, { run with supervisor := supervisor })

/-- Answers what the supervisor asks for, then what it asks for thereupon, for
a limited number of rounds. -/
def settle (setup : OfflineSetup) :
    (rounds : Nat) → List Supervisor.Effect → StateM OfflineRun Unit
  | 0, _ => return
  | rounds + 1, effects => do
      let mut asked := []
      for effect in effects do
        if let some event ← perform setup effect then
          asked := asked ++ (← react event)
      unless asked.isEmpty do
        settle setup rounds asked

/-- More rounds than a supervisor needs to come to rest when every answer is a
failure. -/
def roundLimit : Nat := 16

/-- A run in which nothing has happened yet. -/
def start (setup : OfflineSetup)
    (supervisor : Supervisor × List Supervisor.Effect) : OfflineRun :=
  ((settle setup roundLimit supervisor.2).run
    ⟨supervisor.1, .isolated, [], []⟩).2

/-- Lets time pass, then looks at what is due. -/
def advance (setup : OfflineSetup) (time : Duration) (run : OfflineRun) :
    OfflineRun :=
  let waiting : StateM OfflineRun Unit := do
    let run ← get
    onHost (Host.waitUntil (run.host.now + time))
    settle setup roundLimit (← react .tick)
  (waiting.run run).2

end OfflineRun

end Pinhole
