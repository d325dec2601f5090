import Pinhole.Bytes
import Pinhole.Text.Decimal
import Pinhole.Text.Fields

/-!
# IPv4 endpoints

An endpoint is an IPv4 address with a port.  Its text is the dotted address, a
colon and the port.  Reading an address is strict: four decimal numbers of at
most three digits, none above 255 and none with a leading zero.
-/

namespace Pinhole

/-- The four octets of an IPv4 address, in the order they are written. -/
structure Ipv4 where
  a : UInt8
  b : UInt8
  c : UInt8
  d : UInt8
deriving DecidableEq, Repr

namespace Ipv4

def unspecified : Ipv4 := ⟨0, 0, 0, 0⟩

def loopback : Ipv4 := ⟨127, 0, 0, 1⟩

def chars (ip : Ipv4) : List Char :=
  Decimal.write ip.a.toNat ++ '.' :: Decimal.write ip.b.toNat ++
    '.' :: Decimal.write ip.c.toNat ++ '.' :: Decimal.write ip.d.toNat

def text (ip : Ipv4) : String :=
  String.ofList ip.chars

/-- A number from 0 to 255 in at most three digits, without leading zeros. -/
def octet? (digits : List Char) : Option UInt8 :=
  if digits = [] ∨ 3 < digits.length ∨
      (digits.head? = some '0' ∧ digits.length ≠ 1) then none
  else
    match Decimal.readDigits 255 0 digits with
    | .ok value => some (UInt8.ofNat value)
    | .error _ => none

def ofChars? (chars : List Char) : Option Ipv4 :=
  match fields '.' chars with
  | [a, b, c, d] => do
      return ⟨← octet? a, ← octet? b, ← octet? c, ← octet? d⟩
  | _ => none

end Ipv4

/-- An IPv4 address and a port. -/
structure Endpoint where
  ip : Ipv4
  port : UInt16
deriving DecidableEq, Repr

namespace Endpoint

def chars (endpoint : Endpoint) : List Char :=
  endpoint.ip.chars ++ ':' :: Decimal.write endpoint.port.toNat

def text (endpoint : Endpoint) : String :=
  String.ofList endpoint.chars

/-- Digits of a port; leading zeros are allowed, a sign is not. -/
def port? (digits : List Char) : Option UInt16 :=
  if digits = [] then none
  else
    match Decimal.readDigits 65535 0 digits with
    | .ok value => some (UInt16.ofNat value)
    | .error _ => none

/-- Reads an address, a colon and a port, with nothing left out. -/
def ofChars? (chars : List Char) : Option Endpoint :=
  match fields ':' chars with
  | [ip, port] => do return ⟨← Ipv4.ofChars? ip, ← port? port⟩
  | _ => none

def ofText? (text : String) : Option Endpoint :=
  ofChars? text.toList

/-- Whether a socket that asked for `requested` may have been given
`assigned`: the port zero asks for any port that is free. -/
def Admits (requested assigned : Endpoint) : Prop :=
  assigned.ip = requested.ip ∧ assigned.port ≠ 0 ∧
    (requested.port = 0 ∨ assigned.port = requested.port)

instance (requested assigned : Endpoint) :
    Decidable (Admits requested assigned) :=
  inferInstanceAs (Decidable (_ ∧ _ ∧ _))

end Endpoint

end Pinhole
