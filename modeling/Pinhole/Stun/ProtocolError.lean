import Pinhole.Text.Hex

/-!
# Faults of a binding message

Why bytes are no binding message, why an attribute cannot be read, and why a
message is not the answer to a request.
-/

namespace Pinhole

inductive ProtocolError where
  /-- Fewer bytes than the header takes. -/
  | messageTooShort (length : Nat)
  /-- The header declares another length than what follows it has. -/
  | lengthMismatch (declared available : Nat)
  /-- Bytes are left over that cannot hold the header of an attribute. -/
  | malformedAttributes (remaining : Nat)
  /-- The value is shorter than declared, or than its kind of value takes. -/
  | truncatedAttribute (type : UInt16)
  /-- The answer to some other request. -/
  | transactionMismatch
  | errorResponse (type : UInt16)
  | unexpectedMessageType (type : UInt16)
deriving DecidableEq, Repr

namespace ProtocolError

/-- A 16-bit type in four capital digits. -/
def typeText (type : UInt16) : String :=
  "0x" ++ String.ofList (Hex.writePadded 4 type.toNat)

def message : ProtocolError → String
  | messageTooShort length => s!"STUN message too short: {length} bytes"
  | lengthMismatch declared available =>
      s!"STUN length mismatch: header declares {declared}, " ++
        s!"{available} available"
  | malformedAttributes remaining =>
      s!"malformed STUN attributes: {remaining} trailing bytes"
  | truncatedAttribute type => "truncated STUN attribute " ++ typeText type
  | transactionMismatch => "STUN transaction ID mismatch"
  | errorResponse type => "STUN error response (type " ++ typeText type ++ ")"
  | unexpectedMessageType type =>
      "unexpected STUN message type " ++ typeText type

end ProtocolError

end Pinhole
