import Pinhole.Stun.Change

/-!
# Attributes of a binding message

An attribute has a type, and a value of any length.  It is written as its type,
the length of its value modulo 65536, the value, and zero bytes up to the next
multiple of four.  An address is written as a zero byte, the family byte, the
port and the four octets; the masked form combines port and octets with the
magic cookie by exclusive or, so masking twice gives the address back.
-/

namespace Pinhole

/-- A type and a value without its padding. -/
structure Attribute where
  type : UInt16
  value : Bytes
deriving DecidableEq, Repr

namespace Attribute

def mappedAddress : UInt16 := 0x0001

def changeRequest : UInt16 := 0x0003

/-- The older name of the server's other endpoint. -/
def changedAddress : UInt16 := 0x0005

def xorMappedAddress : UInt16 := 0x0020

def otherAddress : UInt16 := 0x802c

/-- The family byte of an IPv4 address. -/
def familyIpv4 : UInt8 := 1

/-- The four bytes that open every transaction identifier of this protocol. -/
def magicCookie : Bytes := [0x21, 0x12, 0xa4, 0x42]

/-- Combines an endpoint with the magic cookie: the port with its first half,
the address with the whole of it. -/
def mask (endpoint : Endpoint) : Endpoint :=
  ⟨⟨endpoint.ip.a ^^^ 0x21, endpoint.ip.b ^^^ 0x12,
      endpoint.ip.c ^^^ 0xa4, endpoint.ip.d ^^^ 0x42⟩,
    endpoint.port ^^^ 0x2112⟩

theorem mask_mask (endpoint : Endpoint) : mask (mask endpoint) = endpoint := by
  simp only [mask, UInt8.xor_assoc, UInt8.xor_self, UInt8.xor_zero,
    UInt16.xor_assoc, UInt16.xor_self, UInt16.xor_zero]

/-- An endpoint as the value of an attribute. -/
def addressValue (endpoint : Endpoint) : Bytes :=
  [0, familyIpv4] ++ Bytes.ofWord endpoint.port ++
    [endpoint.ip.a, endpoint.ip.b, endpoint.ip.c, endpoint.ip.d]

def ofMapped (endpoint : Endpoint) : Attribute :=
  ⟨mappedAddress, addressValue endpoint⟩

def ofXorMapped (endpoint : Endpoint) : Attribute :=
  ⟨xorMappedAddress, addressValue (mask endpoint)⟩

def ofOther (endpoint : Endpoint) : Attribute :=
  ⟨otherAddress, addressValue endpoint⟩

def ofChanged (endpoint : Endpoint) : Attribute :=
  ⟨changedAddress, addressValue endpoint⟩

def ofChange (change : Change) : Attribute :=
  let flags := change.flags.toNat
  ⟨changeRequest,
    Bytes.ofWord (UInt16.ofNat (flags / 65536)) ++
      Bytes.ofWord (UInt16.ofNat flags)⟩

/-- The bytes an attribute takes in a message, header and padding included. -/
def encodedLength (item : Attribute) : Nat :=
  4 + Bytes.padded item.value.length

def encode (item : Attribute) : Bytes :=
  Bytes.ofWord item.type ++
    Bytes.ofWord (UInt16.ofNat item.value.length) ++
    item.value ++
    List.replicate
      (Bytes.padded item.value.length - item.value.length) 0

theorem length_encode (item : Attribute) :
    item.encode.length = item.encodedLength := by
  have hpad := Bytes.le_padded item.value.length
  simp [encode, encodedLength, Bytes.ofWord]
  omega

end Attribute

end Pinhole
