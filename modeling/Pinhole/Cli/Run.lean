import Pinhole.Cli.Plan
import Pinhole.Config.File
import Pinhole.Supervise.Offline
import Pinhole.Survey.Tcp
import Pinhole.Survey.Udp

/-!
# A run of the program

The arguments are read, the configuration is loaded and overlaid with them, and
the plan that follows is carried out.  A test ends with its verdict; supervision
has no end of its own.  A run that fails reports why and ends with code 1, one
whose arguments make no sense with code 2.
-/

namespace Pinhole

/-- Where a run leads. -/
inductive Outcome where
  | ended (code : UInt8) (output errors : String)
  /-- The supervision that is to go on until the program is interrupted. -/
  | supervising (supervision : Supervision)

namespace Outcome

def versionText : String := "nat1-traversal 1.0.5\n"

def usageLines : List String :=
  ["Usage: nat1-traversal [OPTIONS]",
    "",
    "Options:",
    "  -l, --local [<LOCAL>]    Local address to map, [ip]:[port]",
    "  -r, --remote [<REMOTE>]  Forward target, [ip]:[port]",
    "  -u, --udp                Use UDP instead of TCP",
    "  -c, --config <CONFIG>    Configuration file path",
    "  -d, --debug              Enable debug output",
    "  -t, --nat-type-test      Test the NAT type and exit",
    "  -h, --help               Print help",
    "  -V, --version            Print version"]

def usageText : String :=
  String.join (usageLines.map fun line => line ++ "\n")

/-- A failure, after some output. -/
def failed (output : String) (report : Report) : Outcome :=
  ended 1 output ("Error: " ++ report.paragraphs ++ "\n")

def ofStop : Arguments.Stop → Outcome
  | .help => ended 0 usageText ""
  | .version => ended 0 versionText ""
  | .misuse => ended 2 "" usageText

/-- The verdict of a test, and its failure if it failed. -/
def ofClassification (classification : Classification) : Outcome :=
  let verdict := classification.natType.verdict
  let output :=
    classification.transport.name ++ " NAT" ++
      toString classification.natType.code ++ ": " ++ verdict ++ "\n" ++
      match classification.mapped with
      | some mapped => "Public address: " ++ mapped.text ++ "\n"
      | none => ""
  match classification.error with
  | none => ended 0 output ""
  | some error =>
      failed output (.alone ("NAT type test failed: " ++ error.message))

end Outcome

variable {σ : Type}

/-- Whether an endpoint can be bound for both transports. -/
def Host.checkAvailable (endpoint : Endpoint) :
    StateM (Host σ) (Except SystemError Unit) := do
  match ← Host.bind endpoint with
  | .error cause => return .error cause
  | .ok _ => return (← Host.bind endpoint).map fun _ => ()

/-- The report of a local endpoint that cannot be bound. -/
def unavailableReport (endpoint : Endpoint) (cause : SystemError) : Report :=
  .because ("local address " ++ endpoint.text ++ " is not available")
    (.alone cause.text)

def NatTest.run (test : NatTest) : StateM (Host σ) Classification :=
  match test.transport with
  | .tcp => classifyTcp test.server test.settings test.origin
  | .udp => classifyUdp test.server test.settings test.origin

/-- Carries a plan out, as far as it has an end. -/
def Plan.run : Plan → StateM (Host σ) Outcome
  | .test natTest => do return .ofClassification (← natTest.run)
  | .supervise supervision => do
      match ← Host.checkAvailable supervision.origin with
      | .error cause =>
          return .failed "" (unavailableReport supervision.origin cause)
      | .ok () => return .supervising supervision

/-- The configuration of a run.  A test does without a file. -/
def Arguments.loadConfig (arguments : Arguments) :
    StateM FileTree (Except LoadError Config) := do
  if arguments.natTypeTest && !(← get).contains arguments.configPath then
    return .ok {}
  return (← Config.load arguments.configPath).map Prod.fst

/-- Runs the program with the given arguments in a tree of files. -/
def runProgram (arguments : List String) (files : FileTree) :
    StateM (Host σ) (Outcome × FileTree) := do
  match Arguments.parse arguments with
  | .error stop => return (.ofStop stop, files)
  | .ok arguments =>
      let (loaded, files) := arguments.loadConfig files
      match loaded with
      | .error error => return (.failed "" error.report, files)
      | .ok config =>
          match (config.overlay arguments).plan arguments.natTypeTest with
          | .error error => return (.failed "" error.report, files)
          | .ok plan => return (← plan.run, files)

namespace Supervision

/-- The supervision as an isolated host sees it.  The provider is never asked
for anything, since there is no mapping to publish. -/
def offline (supervision : Supervision) : OfflineSetup where
  lookup := supervision.lookup
  origin := supervision.origin
  provider := fun _ => .ok ()

/-- The supervisor at its start. -/
def supervisor (supervision : Supervision) :
    Supervisor × List Supervisor.Effect :=
  match supervision.target with
  | some _ => Supervisor.startForward supervision.name
  | none => Supervisor.startShared supervision.name

end Supervision

end Pinhole
