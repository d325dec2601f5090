import Pinhole.Survey.Prober

/-!
# Probing by a script

A prober whose answers are known beforehand.  Only the exchanges from fresh
ports differ from one to the next: they take their answers from a list, in
order.
-/

namespace Pinhole

structure ProbeScript where
  primary : Except StunError Binding
  /-- The second endpoint, which may hang on the first exchange. -/
  endpoint : Binding → Option Endpoint
  secondary : Except StunError Binding
  inbound : Except StunError Bool
  warmUp : Except StunError Bool
  /-- How an exchange from a fresh port fails that the list has no answer
  for. -/
  exhausted : StunError

namespace ProbeScript

/-- The prober of a script; its state is what is left for fresh ports. -/
def prober (script : ProbeScript) :
    Prober (List (Except StunError Binding)) where
  primary := Attempt.ofResult script.primary
  secondaryEndpoint := fun first => return script.endpoint first
  secondary := fun _ _ => Attempt.ofResult script.secondary
  inbound := fun _ => Attempt.ofResult script.inbound
  inboundAfterWarmUp := fun _ => Attempt.ofResult script.warmUp
  freshPort := fun _ => ExceptT.mk fun
    | [] => (.error script.exhausted, [])
    | answer :: left => (answer, left)

end ProbeScript

end Pinhole
