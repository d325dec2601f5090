import Pinhole.Config.Settings
import Pinhole.Toml.Document

/-!
# Reading a configuration

Each section is a table of a document.  A section may also be an array, which
gives the fields in their order; what is missing takes its default either way,
and so do all fields of a section that is a date.  A section that is left out is
the default section.  Keys that mean nothing are passed over, and a field of the
wrong type makes the whole text unreadable.
-/

namespace Pinhole.Config

open Toml

/-- The fields of a section as they are written. -/
inductive Written where
  | named (entries : List (String × Value))
  | ordered (items : List Value)

namespace Written

def ofValue? : Value → Option Written
  | .table entries => some (named entries)
  | .array items => some (ordered items)
  | .datetime _ => some (named [])
  | .string _ | .integer _ | .float _ | .boolean _ => none

/-- A field by its name, or by its place. -/
def field? (written : Written) (name : String) (place : Nat) : Option Value :=
  match written with
  | named entries => entries.lookup name
  | ordered items => items[place]?

def string? (written : Written) (name : String) (place : Nat)
    (absent : String) : Option String :=
  match written.field? name place with
  | none => some absent
  | some (.string text) => some text
  | some _ => none

def optionalString? (written : Written) (name : String) (place : Nat) :
    Option (Option String) :=
  match written.field? name place with
  | none => some none
  | some (.string text) => some (some text)
  | some _ => none

/-- A number from zero up to `limit`. -/
def natural? (written : Written) (name : String) (place limit absent : Nat) :
    Option Nat :=
  match written.field? name place with
  | none => some absent
  | some (.integer value) =>
      if 0 ≤ value ∧ value ≤ limit then some value.toNat else none
  | some _ => none

end Written

def forward? (written : Written) : Option ForwardSettings := do
  return {
    listen := ← written.optionalString? "local" 0
    remote := ← written.optionalString? "remote" 1
    transport := ← written.string? "transport" 2 defaultTransport }

def stun? (written : Written) : Option StunSettings := do
  return {
    tcpServer := ← written.string? "tcp_server" 0 defaultTcpServer
    udpServer := ← written.string? "udp_server" 1 defaultUdpServer
    timeout := UInt64.ofNat
      (← written.natural? "timeout_secs" 2 (UInt64.size - 1)
        defaultTimeout.toNat)
    retries := UInt32.ofNat
      (← written.natural? "retries" 3 (UInt32.size - 1)
        defaultRetries.toNat) }

def dns? (written : Written) : Option DnsSettings := do
  return {
    provider := ← written.string? "provider" 0 defaultProvider
    id := ← written.optionalString? "id" 1
    token := ← written.optionalString? "token" 2
    domain := ← written.string? "domain" 3 ""
    subDomain := ← written.string? "sub_domain" 4 ""
    service := ← written.string? "service" 5 defaultService }

def logging? (written : Written) : Option LogSettings := do
  return { level := ← written.string? "level" 0 defaultLevel }

/-- A section of a document, or its default if the section is left out. -/
def section? {α : Type} (entries : List (String × Value)) (name : String)
    (read : Written → Option α) (absent : α) : Option α :=
  match entries.lookup name with
  | none => some absent
  | some value => (Written.ofValue? value).bind read

/-- The configuration that a document's table holds. -/
def ofTable? (entries : List (String × Value)) : Option Config := do
  let defaults : Config := {}
  return {
    forward := ← section? entries "forward" forward? defaults.forward
    stun := ← section? entries "stun" stun? defaults.stun
    dns := ← section? entries "dns" dns? defaults.dns
    logging := ← section? entries "logging" logging? defaults.logging }

/-- The configuration that a text holds. -/
def parse? (text : String) : Option Config := do
  ofTable? (← Toml.parse? text)

end Pinhole.Config
