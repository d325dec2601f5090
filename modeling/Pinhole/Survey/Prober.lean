import Pinhole.Stun.Attempt

/-!
# The steps of a classification

A prober carries out the steps a classification is made of, over one transport.
Its steps may depend on everything it did before, which its state stands for.
A recording prober does the same and notes each step it is asked for.
-/

namespace Pinhole

/-- What a prober is asked to do.  All steps but the first are told the result
of the first. -/
inductive Step where
  /-- An exchange with the server's primary endpoint. -/
  | primary
  /-- Choosing the endpoint that mappings are compared with. -/
  | secondaryEndpoint (first : Binding)
  /-- An exchange with that endpoint from the same source. -/
  | secondary (first : Binding) (endpoint : Endpoint)
  /-- Whether unsolicited traffic reaches the mapping. -/
  | inbound (first : Binding)
  /-- The same once the mapping has been used for sending. -/
  | inboundAfterWarmUp (first : Binding)
  /-- An exchange with the primary endpoint from a new port. -/
  | freshPort (ip : Ipv4)
deriving DecidableEq, Repr

/-- The means to carry out each step. -/
structure Prober (S : Type) where
  primary : Attempt S Binding
  secondaryEndpoint : Binding → StateM S (Option Endpoint)
  secondary : Binding → Endpoint → Attempt S Binding
  inbound : Binding → Attempt S Bool
  inboundAfterWarmUp : Binding → Attempt S Bool
  freshPort : Ipv4 → Attempt S Binding

namespace Prober

variable {S α : Type}

/-- Notes a step, then carries it out. -/
def noting (step : Step) (operation : StateM S α) :
    StateM (S × List Step) α :=
  fun (state, steps) =>
    let (result, state) := operation state
    (result, state, steps ++ [step])

/-- The prober that keeps a list of the steps it was asked for. -/
def recording (prober : Prober S) : Prober (S × List Step) where
  primary := noting .primary prober.primary
  secondaryEndpoint := fun first =>
    noting (.secondaryEndpoint first) (prober.secondaryEndpoint first)
  secondary := fun first endpoint =>
    noting (.secondary first endpoint) (prober.secondary first endpoint)
  inbound := fun first => noting (.inbound first) (prober.inbound first)
  inboundAfterWarmUp := fun first =>
    noting (.inboundAfterWarmUp first) (prober.inboundAfterWarmUp first)
  freshPort := fun ip => noting (.freshPort ip) (prober.freshPort ip)

end Prober

end Pinhole
