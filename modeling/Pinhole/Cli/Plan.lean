import Pinhole.Cli.Arguments
import Pinhole.Config.Validate
import Pinhole.Stun.Mapping

/-!
# From a configuration to what is to be done

A configuration is checked, and then says either which NAT test to make or what
to supervise.  Sharing a port is for TCP only and needs a port that is known
beforehand.
-/

namespace Pinhole

/-- A classification to be made. -/
structure NatTest where
  transport : Transport
  server : String
  settings : ExchangeSettings
  origin : Endpoint
deriving DecidableEq, Repr

/-- What to supervise.  Without a target the mapped port is shared. -/
structure Supervision where
  origin : Endpoint
  target : Option Endpoint
  lookup : MappingLookup
  provider : DnsProvider
  name : DnsName
deriving DecidableEq, Repr

inductive Plan where
  | test (test : NatTest)
  | supervise (supervision : Supervision)
deriving DecidableEq, Repr

/-- Why there is no plan. -/
inductive PlanError where
  | invalid (error : ConfigError)
  | unknownTransport (name : String)
  | noLocalAddress
  | target (error : AddressError)
  | sharedOverUdp
  | sharedWithoutPort
  | unsupportedProvider (name : String)
deriving DecidableEq, Repr

def PlanError.report : PlanError → Report
  | invalid error => error.report
  | unknownTransport name => .alone (Transport.unknownMessage name)
  | noLocalAddress =>
      .alone "no local address configured (use -l or forward.local)"
  | target error => error.report
  | sharedOverUdp =>
      .alone ("shared-port mode supports TCP only; " ++
        "set a remote address for UDP")
  | sharedWithoutPort => .alone "shared-port mode needs a fixed local port"
  | unsupportedProvider name => .alone (DnsProvider.unsupportedMessage name)

namespace Config

/-- The configuration with what the arguments put in its place. -/
def overlay (config : Config) (arguments : Arguments) : Config :=
  { config with
    forward := {
      listen := arguments.listen.or config.forward.listen
      remote := arguments.remote.or config.forward.remote
      transport :=
        if arguments.udp then Transport.udp.name
        else config.forward.transport } }

/-- The server to ask over a transport. -/
def server (config : Config) : Transport → String
  | .tcp => config.stun.tcpServer
  | .udp => config.stun.udpServer

def exchangeSettings (config : Config) : ExchangeSettings where
  timeout := Duration.seconds config.stun.timeout.toNat
  retries := config.stun.retries

/-- The names of the records to publish. -/
def dnsName (config : Config) : DnsName where
  service := (serviceLabel? config.dns.service).getD ""
  subDomain := config.dns.subDomain
  domain := config.dns.domain

def findTransport (config : Config) : Except PlanError Transport :=
  (Transport.ofName config.forward.transport).mapError .unknownTransport

/-- The local endpoint; a test does without one. -/
def origin (config : Config) (natTypeTest : Bool) :
    Except PlanError Endpoint := do
  match ← config.listenEndpoint.mapError .invalid with
  | some endpoint => return endpoint
  | none =>
      if natTypeTest then return ⟨.unspecified, 0⟩
      else throw .noLocalAddress

/-- The forward target, without which a port must be fit to be shared. -/
def target (config : Config) (transport : Transport) (origin : Endpoint) :
    Except PlanError (Option Endpoint) := do
  let target? ←
    match config.forward.remote with
    | some text => (Endpoint.readSetting .loopback text).mapError .target
    | none => Except.ok none
  if target?.isNone then
    if transport = .udp then throw .sharedOverUdp
    if origin.port = 0 then throw .sharedWithoutPort
  return target?

def findProvider (config : Config) : Except PlanError DnsProvider :=
  match DnsProvider.ofName? config.dns.provider with
  | some provider => .ok provider
  | none => .error (.unsupportedProvider config.dns.provider)

/-- What a configuration says is to be done. -/
def plan (config : Config) (natTypeTest : Bool) : Except PlanError Plan := do
  config.validate.mapError .invalid
  let transport ← config.findTransport
  let origin ← config.origin natTypeTest
  let server := config.server transport
  let settings := config.exchangeSettings
  if natTypeTest then
    return .test ⟨transport, server, settings, origin⟩
  let target? ← config.target transport origin
  let provider ← config.findProvider
  return .supervise
    ⟨origin, target?, ⟨transport, server, settings⟩, provider,
      config.dnsName⟩

end Config

end Pinhole
