import Pinhole.Net.Endpoint
import Pinhole.Text.Hex

/-!
# Socket addresses of both families

The address a packet came from may be an IPv6 one.  An IPv6 address is written
in groups of hexadecimal digits without leading zeros, the first longest run of
at least two zero groups replaced by two colons; an address that stands for an
IPv4 one ends in its dotted form.  An address may carry the number of the
network interface it belongs to.
-/

namespace Pinhole

/-- Eight groups of sixteen bits. -/
structure Ipv6 where
  groups : List UInt16
  length_groups : groups.length = 8
deriving DecidableEq, Repr

namespace Ipv6

/-- One to four hexadecimal digits. -/
def group? (digits : List Char) : Option UInt16 :=
  if 4 < digits.length then none
  else (Hex.read? digits).map UInt16.ofNat

/-- The groups between single colons; the last may be a dotted IPv4 address,
which makes two groups. -/
def readGroups? : List (List Char) → Option (List UInt16)
  | [] => some []
  | [last] =>
      match Ipv4.ofChars? last with
      | some ip => some [Bytes.toWord ip.a ip.b, Bytes.toWord ip.c ip.d]
      | none => (group? last).map ([·])
  | field :: others => do
      return (← group? field) :: (← readGroups? others)

/-- The groups on one side of the double colon, which may be none. -/
def readSide? : List Char → Option (List UInt16)
  | [] => some []
  | side => readGroups? (fields ':' side)

/-- What stands before and after the first double colon. -/
def splitGap? : List Char → Option (List Char × List Char)
  | [] => none
  | ':' :: ':' :: rest => some ([], rest)
  | char :: rest => (splitGap? rest).map fun (left, right) =>
      (char :: left, right)

def ofGroups? (groups : List UInt16) : Option Ipv6 :=
  if h : groups.length = 8 then some ⟨groups, h⟩ else none

/-- Reads an address: eight groups, or fewer around a double colon.  A dotted
tail may only stand at the very end. -/
def ofChars? (chars : List Char) : Option Ipv6 :=
  match splitGap? chars with
  | none => readSide? chars >>= ofGroups?
  | some (left, right) => do
      if '.' ∈ left then none
      let before ← readSide? left
      let after ← readSide? right
      if 7 < before.length + after.length then none
      ofGroups?
        (before ++ List.replicate (8 - before.length - after.length) 0 ++
          after)

/-- The length of the run of zero groups at the front. -/
def zeroRun (groups : List UInt16) : Nat :=
  (groups.takeWhile (· == 0)).length

/-- Where the first longest run of zero groups starts, and its length. -/
def longestZeroRun (groups : List UInt16) : Nat × Nat :=
  (List.range groups.length).foldl
    (fun best start =>
      let run := zeroRun (groups.drop start)
      if best.2 < run then (start, run) else best)
    (0, 0)

/-- The IPv4 address that an address of the form `::ffff:a.b.c.d` stands for. -/
def mappedIpv4? (ip : Ipv6) : Option Ipv4 :=
  match ip.groups with
  | [0, 0, 0, 0, 0, 0xffff, high, low] =>
      match Bytes.ofWord high, Bytes.ofWord low with
      | [a, b], [c, d] => some ⟨a, b, c, d⟩
      | _, _ => none
  | _ => none

def groupsText (groups : List UInt16) : String :=
  String.intercalate ":"
    (groups.map fun group => String.ofList (Hex.write group.toNat))

def text (ip : Ipv6) : String :=
  match ip.mappedIpv4? with
  | some ipv4 => "::ffff:" ++ ipv4.text
  | none =>
      let (start, run) := longestZeroRun ip.groups
      if 1 < run then
        groupsText (ip.groups.take start) ++ "::" ++
          groupsText (ip.groups.drop (start + run))
      else groupsText ip.groups

end Ipv6

/-- Where a packet comes from or goes to. -/
inductive SocketAddress where
  | v4 (endpoint : Endpoint)
  | v6 (ip : Ipv6) (port : UInt16) (interface : UInt32)
deriving DecidableEq, Repr

namespace SocketAddress

def text : SocketAddress → String
  | .v4 endpoint => endpoint.text
  | .v6 ip port interface =>
      let scope := if interface = 0 then "" else s!"%{interface}"
      "[" ++ ip.text ++ scope ++ "]:" ++ toString port

/-- An address in brackets, with its interface after a percent sign if it has
one. -/
def readBracketed? (inside : List Char) : Option (Ipv6 × UInt32) :=
  match fields '%' inside with
  | [ip] => (Ipv6.ofChars? ip).map (·, 0)
  | [ip, interface] =>
      match interface, Decimal.readDigits 4294967295 0 interface with
      | _ :: _, .ok number =>
          (Ipv6.ofChars? ip).map (·, UInt32.ofNat number)
      | _, _ => none
  | _ => none

def ofChars? : List Char → Option SocketAddress
  | '[' :: rest =>
      match fields ']' rest with
      | [inside, ':' :: port] => do
          let (ip, interface) ← readBracketed? inside
          return .v6 ip (← Endpoint.port? port) interface
      | _ => none
  | chars => (Endpoint.ofChars? chars).map .v4

def ofText? (text : String) : Option SocketAddress :=
  ofChars? text.toList

def ipv4? : SocketAddress → Option Endpoint
  | .v4 endpoint => some endpoint
  | .v6 .. => none

end SocketAddress

end Pinhole
