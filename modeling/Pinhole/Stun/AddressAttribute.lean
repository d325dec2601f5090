import Pinhole.Stun.Message

/-!
# The addresses a message carries

A message is scanned once for an address.  The first usable attribute of the
preferred type wins wherever it stands; otherwise the first usable one of the
older type is taken.  An address of another family counts as absent, and an
attribute too short to read ends the scan, unless it is of the older type and
one of that type has been read already.
-/

namespace Pinhole

namespace Attribute

/-- The IPv4 endpoint in an attribute, or none if it holds an address of
another family. -/
def endpoint? (item : Attribute) :
    Except ProtocolError (Option Endpoint) :=
  match item.value with
  | _ :: family :: portHigh :: portLow :: rest =>
      if family ≠ familyIpv4 then .ok none
      else
        match rest with
        | a :: b :: c :: d :: _ =>
            .ok (some ⟨⟨a, b, c, d⟩, Bytes.toWord portHigh portLow⟩)
        | _ => .error (.truncatedAttribute item.type)
  | _ => .error (.truncatedAttribute item.type)

/-- Looks for an address of the preferred type, which is then passed through
`reveal`, keeping the first one of the older type in hand. -/
def scan (preferred older : UInt16) (reveal : Endpoint → Endpoint)
    (inHand : Option Endpoint) :
    List Attribute → Except ProtocolError (Option Endpoint)
  | [] => .ok inHand
  | item :: rest =>
      if item.type = preferred then
        match item.endpoint? with
        | .error error => .error error
        | .ok (some endpoint) => .ok (some (reveal endpoint))
        | .ok none => scan preferred older reveal inHand rest
      else if item.type = older ∧ inHand = none then
        match item.endpoint? with
        | .error error => .error error
        | .ok found => scan preferred older reveal found rest
      else scan preferred older reveal inHand rest

end Attribute

namespace Message

/-- The client's endpoint as the server saw it. -/
def mappedAddress (message : Message) :
    Except ProtocolError (Option Endpoint) :=
  Attribute.scan Attribute.xorMappedAddress Attribute.mappedAddress
    Attribute.mask none message.attributes

/-- The server's other endpoint. -/
def otherAddress (message : Message) :
    Except ProtocolError (Option Endpoint) :=
  Attribute.scan Attribute.otherAddress Attribute.changedAddress
    id none message.attributes

end Message

end Pinhole
