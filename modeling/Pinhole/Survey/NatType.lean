import Pinhole.Stun.Error
import Pinhole.Transport

/-!
# Verdicts about a NAT

The six verdicts of a classification, each with a number, the text of its
report and a description.
-/

namespace Pinhole

inductive NatType where
  | openInternet
  | fullCone
  | restrictedCone
  | portRestrictedCone
  | symmetric
  /-- The server does not tell enough to decide. -/
  | unsupported
deriving DecidableEq, Repr

namespace NatType

def code : NatType → Int
  | openInternet => 0
  | fullCone => 1
  | restrictedCone => 2
  | portRestrictedCone => 3
  | symmetric => 4
  | unsupported => -1

/-- Whether anybody can reach the mapping without being contacted first. -/
def isReachable : NatType → Bool
  | openInternet | fullCone => true
  | restrictedCone | portRestrictedCone | symmetric | unsupported => false

def verdict : NatType → String
  | openInternet => "OPEN INTERNET"
  | fullCone => "FULL CONE"
  | restrictedCone => "RESTRICTED CONE"
  | portRestrictedCone => "PORT RESTRICTED CONE"
  | symmetric => "SYMMETRIC"
  | unsupported => "UNSUPPORTED"

def description : NatType → String
  | openInternet => "Open Internet (No NAT)"
  | fullCone => "Full Cone NAT"
  | restrictedCone => "Restricted Cone NAT"
  | portRestrictedCone => "Port Restricted Cone NAT"
  | symmetric => "Symmetric NAT"
  | unsupported => "Unsupported"

end NatType

/-- The outcome of a classification. -/
structure Classification where
  transport : Transport
  natType : NatType
  mapped : Option Endpoint
  error : Option StunError
deriving DecidableEq, Repr

namespace Classification

/-- What is left to say when a step failed. -/
def failed (transport : Transport) (error : StunError) : Classification :=
  ⟨transport, .unsupported, none, some error⟩

def isReachable (classification : Classification) : Bool :=
  classification.natType.isReachable

end Classification

end Pinhole
