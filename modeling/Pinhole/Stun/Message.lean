import Pinhole.Stun.Attribute
import Pinhole.Stun.ProtocolError

/-!
# Binding messages

A message has a type, a transaction identifier of sixteen bytes and a list of
attributes.  It is written as the type, the length of the encoded attributes
modulo 65536, the identifier and the attributes.  Reading takes exactly the
bytes the header declares.  The last attribute may lack its padding, and what
stands in a padding is not looked at.
-/

namespace Pinhole

/-- Sixteen bytes that tie an answer to its request. -/
structure TransactionId where
  bytes : Bytes
  length_bytes : bytes.length = 16
deriving DecidableEq, Repr

namespace TransactionId

/-- The identifier of a new request: the magic cookie, then twelve bytes of
its own. -/
def ofFresh (bytes : Vector UInt8 12) : TransactionId :=
  ⟨Attribute.magicCookie ++ bytes.toList, by simp [Attribute.magicCookie]⟩

def ofBytes? (bytes : Bytes) : Option TransactionId :=
  if h : bytes.length = 16 then some ⟨bytes, h⟩ else none

end TransactionId

/-- What a message is for. -/
inductive MessageClass where
  | request
  | indication
  | successResponse
  | errorResponse
deriving DecidableEq, Repr

namespace MessageClass

/-- The class is told by two bits of the message type. -/
def ofType (type : UInt16) : MessageClass :=
  match type.toNat.testBit 8, type.toNat.testBit 4 with
  | false, false => .request
  | false, true => .indication
  | true, false => .successResponse
  | true, true => .errorResponse

end MessageClass

structure Message where
  type : UInt16
  transaction : TransactionId
  attributes : List Attribute
deriving DecidableEq, Repr

namespace Message

def bindingRequest : UInt16 := 0x0001

def bindingResponse : UInt16 := 0x0101

/-- The bytes before the attributes. -/
def headerLength : Nat := 20

def messageClass (message : Message) : MessageClass :=
  .ofType message.type

/-- A request for a mapping.  A change is mentioned only if there is one. -/
def request (transaction : TransactionId) (change : Change) : Message where
  type := bindingRequest
  transaction := transaction
  attributes := if change.isNone then [] else [.ofChange change]

/-- The length of the encoded attributes. -/
def payloadLength (message : Message) : Nat :=
  message.attributes.foldr (fun item length => item.encodedLength + length) 0

def encode (message : Message) : Bytes :=
  Bytes.ofWord message.type ++
    Bytes.ofWord (UInt16.ofNat message.payloadLength) ++
    message.transaction.bytes ++
    message.attributes.flatMap Attribute.encode

/-- The length a header declares; four of its bytes are enough to tell. -/
def declaredLength (header : Bytes) : Except ProtocolError Nat :=
  match header with
  | _ :: _ :: high :: low :: _ => .ok (Bytes.toWord high low).toNat
  | short => .error (.messageTooShort short.length)

/-- Reads attributes until nothing is left. -/
def readAttributes : Bytes → Except ProtocolError (List Attribute)
  | [] => .ok []
  | typeHigh :: typeLow :: lengthHigh :: lengthLow :: rest =>
      let type := Bytes.toWord typeHigh typeLow
      let length := (Bytes.toWord lengthHigh lengthLow).toNat
      let value := rest.take length
      if value.length < length then .error (.truncatedAttribute type)
      else
        (readAttributes (rest.drop (Bytes.padded length))).map
          (⟨type, value⟩ :: ·)
  | short => .error (.malformedAttributes short.length)
termination_by bytes => bytes.length

def decode (bytes : Bytes) : Except ProtocolError Message := do
  let declared ← declaredLength bytes
  match bytes with
  | typeHigh :: typeLow :: _ :: _ :: afterLength =>
      match TransactionId.ofBytes? (afterLength.take 16) with
      | none => throw (.messageTooShort bytes.length)
      | some transaction =>
          let payload := afterLength.drop 16
          if declared ≠ payload.length then
            throw (.lengthMismatch declared payload.length)
          let attributes ← readAttributes payload
          return ⟨Bytes.toWord typeHigh typeLow, transaction, attributes⟩
  | short => throw (.messageTooShort short.length)

end Message

end Pinhole
