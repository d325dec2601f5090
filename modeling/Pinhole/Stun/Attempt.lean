import Pinhole.Net.Host
import Pinhole.Stun.Binding

/-!
# Operations that may fail

An operation of a client reads and changes a state and ends with a result or
with an error; the state is kept in both cases.
-/

namespace Pinhole

/-- An operation on a state that may end with an error. -/
abbrev Attempt (S : Type) := ExceptT StunError (StateM S)

namespace Attempt

variable {S α : Type}

/-- An operation that cannot fail. -/
def always (operation : StateM S α) : Attempt S α :=
  ExceptT.lift operation

/-- A failure of the system, told as `describe` says. -/
def ofSystem (describe : SystemError → StunError)
    (operation : StateM S (Except SystemError α)) : Attempt S α :=
  ExceptT.mk do
    match ← operation with
    | .ok result => return .ok result
    | .error cause => return .error (describe cause)

/-- A fault of a message. -/
def ofProtocol (result : Except ProtocolError α) : Attempt S α :=
  ExceptT.mk (pure (result.mapError .protocol))

/-- A result known beforehand. -/
def ofResult (result : Except StunError α) : Attempt S α :=
  ExceptT.mk (pure result)

end Attempt

namespace Host

variable {σ : Type}

/-- Binds a socket for an exchange. -/
def bindOrFail (requested : Endpoint) : Attempt (Host σ) Endpoint :=
  Attempt.ofSystem (.bind requested) (Host.bind requested)

/-- A new request for a mapping. -/
def newRequest (change : Change) : Attempt (Host σ) Message := do
  let random ← Attempt.always drawTransaction
  return .request (.ofFresh random) change

end Host

end Pinhole
