import Pinhole.Config.Settings
import Pinhole.Toml.Printer

/-!
# The normal form of a configuration

All fields are written, in a fixed order, except the optional ones that are not
set.  A timeout that is no 64-bit signed number cannot be written.
-/

namespace Pinhole.Config

open Toml

def stringField (name text : String) : List (String × Scalar) :=
  [(name, .string text)]

def optionalField (name : String) : Option String → List (String × Scalar)
  | some text => stringField name text
  | none => []

/-- The sections of a configuration with their fields. -/
def tables (config : Config) : List (String × List (String × Scalar)) :=
  [("forward",
      optionalField "local" config.forward.listen ++
        optionalField "remote" config.forward.remote ++
        stringField "transport" config.forward.transport),
    ("stun",
      stringField "tcp_server" config.stun.tcpServer ++
        stringField "udp_server" config.stun.udpServer ++
        [("timeout_secs", .natural config.stun.timeout.toNat),
          ("retries", .natural config.stun.retries.toNat)]),
    ("dns",
      stringField "provider" config.dns.provider ++
        optionalField "id" config.dns.id ++
        optionalField "token" config.dns.token ++
        stringField "domain" config.dns.domain ++
        stringField "sub_domain" config.dns.subDomain ++
        stringField "service" config.dns.service),
    ("logging", stringField "level" config.logging.level)]

/-- The greatest timeout that can be written. -/
def timeoutLimit : Nat := UInt64.size / 2 - 1

/-- The normal form, if there is one. -/
def toText? (config : Config) : Option String :=
  if config.stun.timeout.toNat ≤ timeoutLimit then
    some (Toml.print config.tables)
  else none

end Pinhole.Config
