import Pinhole.Stun.Attempt

/-!
# Server names

A server is named by a host and a port.  The host may be an address of either
family, with an IPv6 one in brackets; only the IPv4 addresses are kept, each
once, in the order the resolver gives them.
-/

namespace Pinhole

namespace ServerName

/-- An IPv4 address as the resolver reads a host name made of numbers alone:
one to four parts, each decimal, octal after `0` or hexadecimal after `0x`, the
last part filling all the bytes that are left. -/
def part? : List Char → Option Nat
  | '0' :: 'x' :: digits | '0' :: 'X' :: digits => Hex.read? digits
  | ['0'] => some 0
  | '0' :: digits =>
      digits.foldl
        (fun value? char => do
          let value ← value?
          let digit ← Decimal.digit? char
          if digit < 8 then some (8 * value + digit) else none)
        (some 0)
  | [] => none
  | digits => (Decimal.readDigits 4294967295 0 digits).toOption

/-- Combines the parts of a numeric host name. -/
def ofParts? : List Nat → Option Nat
  | [a] => if a < UInt32.size then some a else none
  | [a, b] =>
      if a < 256 ∧ b < 0x1000000 then some (a * 0x1000000 + b) else none
  | [a, b, c] =>
      if a < 256 ∧ b < 256 ∧ c < 0x10000 then
        some (a * 0x1000000 + b * 0x10000 + c)
      else none
  | [a, b, c, d] =>
      if a < 256 ∧ b < 256 ∧ c < 256 ∧ d < 256 then
        some (a * 0x1000000 + b * 0x10000 + c * 0x100 + d)
      else none
  | _ => none

/-- The address of a numeric host name. -/
def numeric? (host : List Char) : Option Ipv4 := do
  let parts ← (fields '.' host).mapM part?
  let value ← ofParts? parts
  return ⟨UInt8.ofNat (value / 0x1000000), UInt8.ofNat (value / 0x10000),
    UInt8.ofNat (value / 0x100), UInt8.ofNat value⟩

/-- The socket addresses of a host and port, before the family is looked at. -/
def lookup (addresses : String → Except String (List (Ipv4 ⊕ Ipv6)))
    (name : String) : Except String (List SocketAddress) :=
  match SocketAddress.ofText? name with
  | some address => .ok [address]
  | none =>
      match splitLast? ':' name.toList with
      | none => .error "invalid socket address"
      | some (host, port) =>
          match Decimal.read 65535 port with
          | .error _ => .error "invalid port value"
          | .ok number => do
              let found ←
                match numeric? host with
                | some ip => Except.ok [Sum.inl ip]
                | none => addresses (String.ofList host)
              let port := UInt16.ofNat number
              return found.map fun
                | .inl ip => .v4 ⟨ip, port⟩
                | .inr ip => .v6 ip port 0

/-- The distinct IPv4 endpoints of a list, in order. -/
def distinctIpv4 (found : List SocketAddress) : List Endpoint :=
  (found.filterMap SocketAddress.ipv4?).foldl
    (fun kept endpoint =>
      if endpoint ∈ kept then kept else kept ++ [endpoint])
    []

/-- The server's IPv4 endpoints: the first, and the others in order. -/
def resolve (addresses : String → Except String (List (Ipv4 ⊕ Ipv6)))
    (name : String) : Except StunError (Endpoint × List Endpoint) :=
  match lookup addresses name with
  | .error reason => .error (.resolve name reason)
  | .ok found =>
      match distinctIpv4 found with
      | [] => .error (.resolve name "no IPv4 address")
      | first :: others => .ok (first, others)

variable {σ : Type}

/-- Resolves a server name with what the host knows. -/
def endpoints (name : String) :
    Attempt (Host σ) (Endpoint × List Endpoint) := do
  let host ← get
  Attempt.ofResult (resolve host.surroundings.addresses name)

end ServerName

end Pinhole
