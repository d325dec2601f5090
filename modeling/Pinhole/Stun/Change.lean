import Pinhole.Net.Endpoint

/-!
# Asking for a reply from elsewhere

A binding request may ask the server to answer from its other address, its
other port, or both.  A reply is the wanted one exactly when its source differs
from the endpoint asked in the parts that were to change and in no other part.
-/

namespace Pinhole

/-- Which parts of the reply's source are to differ from the endpoint asked. -/
structure Change where
  ip : Bool
  port : Bool
deriving DecidableEq, Repr

namespace Change

def none : Change := ⟨false, false⟩

def ipAndPort : Change := ⟨true, true⟩

def portOnly : Change := ⟨false, true⟩

def isNone (change : Change) : Bool :=
  !change.ip && !change.port

def ipFlag : UInt32 := 4

def portFlag : UInt32 := 2

/-- The flags as they are sent. -/
def flags (change : Change) : UInt32 :=
  (if change.ip then ipFlag else 0) ||| (if change.port then portFlag else 0)

/-- Reads flags; all other bits are ignored. -/
def ofFlags (flags : UInt32) : Change :=
  ⟨flags &&& ipFlag != 0, flags &&& portFlag != 0⟩

/-- Whether a reply from `sender` is the one asked of `server`. -/
def accepts (change : Change) (server sender : Endpoint) : Bool :=
  (sender.ip != server.ip) == change.ip &&
    (sender.port != server.port) == change.port

theorem ofFlags_flags (change : Change) : ofFlags change.flags = change := by
  cases change with
  | mk ip port => cases ip <;> cases port <;> decide

end Change

end Pinhole
