import Pinhole.Config.Address
import Pinhole.Config.Settings
import Pinhole.Dns.Provider
import Pinhole.Transport

/-!
# Checking a configuration

The checks are made in a fixed order, and the first one that fails is reported.
-/

namespace Pinhole

/-- The services that can be published, with the label of their records. -/
def services : List (String × String) :=
  [("mcje", "_minecraft._tcp."), ("web", "_web._tcp."), ("tcp", "_tcp.")]

/-- The label in front of a service's record. -/
def serviceLabel? (service : String) : Option String :=
  services.lookup service

inductive ConfigError where
  | listen (error : AddressError)
  | remote (error : AddressError)
  | transport (name : String)
  | serverPortMissing (role server : String)
  | serverPortInvalid (role server port : String)
  | serverHostEmpty (role server : String)
  | serverHostInvalid (role server : String)
  | timeout
  | provider (name : String)
  | service (name : String)
  | logLevel (name : String)
deriving DecidableEq, Repr

namespace Config

def transports : List String := [Transport.tcp.name, Transport.udp.name]

def logLevels : List String := ["trace", "debug", "info", "warn", "error"]

/-- What may be chosen from. -/
def choices (names : List String) : String :=
  ". Must be one of: " ++ String.intercalate ", " names

end Config

namespace ConfigError

def report : ConfigError → Report
  | listen error => .because "invalid forward.local" error.report
  | remote error => .because "invalid forward.remote" error.report
  | transport name =>
      .alone ("Invalid transport: " ++ name ++
        Config.choices Config.transports)
  | serverPortMissing role server =>
      .alone (role ++ " '" ++ server ++
        "' missing port (expected format: host:port)")
  | serverPortInvalid role server port =>
      .alone (role ++ " '" ++ server ++ "' has invalid port: " ++ port)
  | serverHostEmpty role server =>
      .alone (role ++ " '" ++ server ++ "' has empty hostname")
  | serverHostInvalid role server =>
      .alone (role ++ " '" ++ server ++ "' contains invalid characters")
  | timeout => .alone "STUN timeout must be between 1 and 60 seconds"
  | provider name =>
      .alone ("Unsupported DNS provider: " ++ name ++
        Config.choices DnsProvider.names)
  | service name =>
      .alone ("Unsupported service: " ++ name ++
        Config.choices (services.map Prod.fst))
  | logLevel name =>
      .alone ("Invalid log level: " ++ name ++
        Config.choices Config.logLevels)

end ConfigError

namespace Config

/-- The local endpoint to map. -/
def listenEndpoint (config : Config) :
    Except ConfigError (Option Endpoint) :=
  match config.forward.listen with
  | some text => (Endpoint.readSetting .unspecified text).mapError .listen
  | none => .ok none

/-- The forward target. -/
def remoteEndpoint (config : Config) :
    Except ConfigError (Option Endpoint) :=
  match config.forward.remote with
  | some text => (Endpoint.readSetting .loopback text).mapError .remote
  | none => .ok none

/-- Fails with an error unless a condition holds. -/
def require (condition : Bool) (error : ConfigError) :
    Except ConfigError Unit :=
  if condition then .ok () else .error error

/-- A server is a host and a port; the role tells which server it is. -/
def checkServer (role server : String) : Except ConfigError Unit :=
  match splitLast? ':' server.toList with
  | none => .error (.serverPortMissing role server)
  | some (host, port) => do
      match Decimal.read 65535 port with
      | .error _ =>
          throw (.serverPortInvalid role server (String.ofList port))
      | .ok 0 => throw (.serverPortInvalid role server "0")
      | .ok _ => pure ()
      require (host ≠ []) (.serverHostEmpty role server)
      require ('/' ∉ host ∧ '\\' ∉ host) (.serverHostInvalid role server)

/-- Makes all checks. -/
def validate (config : Config) : Except ConfigError Unit := do
  let _ ← config.listenEndpoint
  let _ ← config.remoteEndpoint
  require (Unicode.lower config.forward.transport ∈ transports)
    (.transport config.forward.transport)
  checkServer "TCP STUN server" config.stun.tcpServer
  checkServer "UDP STUN server" config.stun.udpServer
  require (1 ≤ config.stun.timeout ∧ config.stun.timeout ≤ 60) .timeout
  require (config.dns.provider ∈ DnsProvider.names)
    (.provider config.dns.provider)
  require (serviceLabel? config.dns.service).isSome
    (.service config.dns.service)
  require (Unicode.lower config.logging.level ∈ logLevels)
    (.logLevel config.logging.level)

end Config

end Pinhole
