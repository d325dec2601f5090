import Pinhole.Net.Endpoint
import Pinhole.Report
import Pinhole.Text.Unicode

/-!
# Endpoints in a configuration

An endpoint is written as an address, a colon and a port.  Either part may be
left out and takes a default then; white space around the whole is dropped, and
nothing at all means that no endpoint is set.
-/

namespace Pinhole

/-- Why a text is no endpoint. -/
inductive AddressError where
  /-- There is not exactly one colon. -/
  | malformed (text : String)
  | notIpv4 (ip : String)
  | badPort (port : String) (fault : Decimal.Fault)
deriving DecidableEq, Repr

def AddressError.report : AddressError → Report
  | malformed text =>
      .alone ("address '" ++ text ++ "' must have the form ip:port")
  | notIpv4 ip =>
      .because ("'" ++ ip ++ "' is not an IPv4 address")
        (.alone "invalid IPv4 address syntax")
  | badPort port fault =>
      .because
        ("port '" ++ port ++ "' must be a number between 0 and 65535")
        (.alone fault.message)

namespace Endpoint

def defaultPort : UInt16 := 25565

/-- The address part, which may be left out. -/
def readIp (absent : Ipv4) (ip : List Char) : Except AddressError Ipv4 :=
  if ip = [] then .ok absent
  else
    match Ipv4.ofChars? ip with
    | some ip => .ok ip
    | none => .error (.notIpv4 (String.ofList ip))

/-- The port part, which may be left out. -/
def readPort (port : List Char) : Except AddressError UInt16 :=
  if port = [] then .ok defaultPort
  else
    match Decimal.read 65535 port with
    | .ok number => .ok (UInt16.ofNat number)
    | .error fault => .error (.badPort (String.ofList port) fault)

/-- Reads an endpoint whose address defaults to `absent`. -/
def readSetting (absent : Ipv4) (text : String) :
    Except AddressError (Option Endpoint) :=
  let trimmed := Unicode.trim text.toList
  if trimmed = [] then .ok none
  else
    match fields ':' trimmed with
    | [ip, port] => do
        let ip ← readIp absent ip
        let port ← readPort port
        return some ⟨ip, port⟩
    | _ => .error (.malformed (String.ofList trimmed))

end Endpoint

end Pinhole
