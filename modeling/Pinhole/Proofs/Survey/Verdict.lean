import Pinhole.Proofs.Stun.Attempt
import Pinhole.Survey.Udp

/-!
# The course of a classification

A classification is run step by step: each lemma says how the outcome of a step
leads to what is left to do.  The steps of a UDP prober are treated in the same
way.
-/

namespace Pinhole

namespace Prober

variable {S : Type} {prober : Prober S}

/-- What is left of a classification once the mapping towards the second
endpoint is known. -/
def judge (prober : Prober S) (first second : Binding) (mapped : Endpoint) :
    Attempt S (NatType × Endpoint) := do
  if second.mapped ≠ some mapped then
    return (.symmetric, mapped)
  if ← prober.inbound first then
    if mapped.port ≠ first.source.port then
      return (.fullCone, mapped)
    let ports ← freshPorts prober first.source.ip freshPortCount
    if portsPreserved ports then return (.openInternet, mapped)
    else return (.fullCone, mapped)
  if ← prober.inboundAfterWarmUp first then
    return (.restrictedCone, mapped)
  else return (.portRestrictedCone, mapped)

section Course

variable {start told asked compared heard : S} {first second : Binding}
  {mapped endpoint : Endpoint} {error : StunError}

theorem run_verdict_of_primary_error
    (hfirst : prober.primary.run start = (.error error, told)) :
    prober.verdict.run start = (.error error, told) := by
  rw [verdict, Attempt.run_bind_of_error hfirst]

theorem run_mapping (hmapped : first.mapped = some mapped) (state : S) :
    (Attempt.ofResult first.mapping).run state = (.ok mapped, state) := by
  rw [Attempt.run_ofResult, Binding.mapping, hmapped]

theorem run_verdict_of_endpoint
    (hfirst : prober.primary.run start = (.ok first, told))
    (hmapped : first.mapped = some mapped) (hsource : first.source ≠ mapped)
    (hendpoint :
      prober.secondaryEndpoint first told = (some endpoint, asked)) :
    prober.verdict.run start =
      (do
        let second ← prober.secondary first endpoint
        prober.judge first second mapped :
          Attempt S (NatType × Endpoint)).run asked := by
  rw [verdict, Attempt.run_bind_of_ok hfirst,
    Attempt.run_bind_of_ok (run_mapping hmapped told), if_neg hsource,
    Attempt.run_bind_of_ok (Attempt.run_always _ _), hendpoint]
  rfl

theorem run_judge_symmetric (hsecond : second.mapped ≠ some mapped) :
    (prober.judge first second mapped).run compared =
      (.ok (.symmetric, mapped), compared) := by
  rw [judge, if_pos hsecond]
  rfl

theorem run_judge_fullCone (hsecond : second.mapped = some mapped)
    (hinbound :
      (prober.inbound first).run compared = (.ok true, heard))
    (hport : mapped.port ≠ first.source.port) :
    (prober.judge first second mapped).run compared =
      (.ok (.fullCone, mapped), heard) := by
  rw [judge, if_neg (not_not_intro hsecond), Attempt.run_bind_of_ok hinbound,
    if_pos rfl, if_pos hport]
  rfl

theorem run_judge_freshPorts (hsecond : second.mapped = some mapped)
    (hinbound :
      (prober.inbound first).run compared = (.ok true, heard))
    (hport : mapped.port = first.source.port) :
    (prober.judge first second mapped).run compared =
      (do
        let ports ← freshPorts prober first.source.ip freshPortCount
        if portsPreserved ports then return (.openInternet, mapped)
        else return (.fullCone, mapped) :
          Attempt S (NatType × Endpoint)).run heard := by
  rw [judge, if_neg (not_not_intro hsecond), Attempt.run_bind_of_ok hinbound,
    if_pos rfl, if_neg (not_not_intro hport)]

theorem run_judge_restricted {final : S} {warmedUp : Bool}
    (hsecond : second.mapped = some mapped)
    (hinbound :
      (prober.inbound first).run compared = (.ok false, heard))
    (hwarmedUp :
      (prober.inboundAfterWarmUp first).run heard =
        (.ok warmedUp, final)) :
    (prober.judge first second mapped).run compared =
      (.ok (if warmedUp then .restrictedCone else .portRestrictedCone,
        mapped), final) := by
  rw [judge, if_neg (not_not_intro hsecond), Attempt.run_bind_of_ok hinbound,
    if_neg Bool.false_ne_true, Attempt.run_bind_of_ok hwarmedUp]
  cases warmedUp <;> rfl

theorem run_classify_of_ok {natType : NatType}
    (hverdict : prober.verdict.run start = (.ok (natType, mapped), told))
    (transport : Transport) :
    (classify transport prober).run start =
      (⟨transport, natType, some mapped, none⟩, told) := by
  have hstate : prober.verdict start = (.ok (natType, mapped), told) :=
    hverdict
  simp only [classify, bind, StateT.run, StateT.bind, ExceptT.run, hstate]
  rfl

theorem run_classify_of_error
    (hverdict : prober.verdict.run start = (.error error, told))
    (transport : Transport) :
    (classify transport prober).run start =
      (.failed transport error, told) := by
  have hstate : prober.verdict start = (.error error, told) := hverdict
  simp only [classify, bind, StateT.run, StateT.bind, ExceptT.run, hstate]
  rfl

end Course

end Prober

namespace UdpLine

variable {S : Type} {line : UdpLine S} {primary : Endpoint}

section Filtering

variable {state asked after : S} {change : Change} {binding : Binding}
  {filtering : Filtering}

theorem run_changedReply_of_ok
    (hrequest :
      (line.request primary change).run state = (.ok binding, after)) :
    (line.changedReply primary change).run state = (.ok true, after) := by
  have hstate : line.request primary change state = (.ok binding, after) :=
    hrequest
  simp only [changedReply, bind, ExceptT.run, ExceptT.mk, StateT.bind, hstate]
  rfl

theorem run_changedReply_of_timeout {server : Endpoint}
    (hrequest :
      (line.request primary change).run state =
        (.error (.timeout server), after)) :
    (line.changedReply primary change).run state = (.ok false, after) := by
  have hstate :
      line.request primary change state =
        (.error (.timeout server), after) :=
    hrequest
  simp only [changedReply, bind, ExceptT.run, ExceptT.mk, StateT.bind, hstate]
  rfl

theorem run_measureFiltering_of_true
    (hreply :
      (line.changedReply primary .ipAndPort).run state =
        (.ok true, after)) :
    (line.measureFiltering primary).run state =
      (.ok ⟨true, none⟩, after) := by
  rw [measureFiltering, Attempt.run_bind_of_ok hreply]
  rfl

theorem run_measureFiltering_of_false {port : Bool}
    (hreply :
      (line.changedReply primary .ipAndPort).run state = (.ok false, asked))
    (hport :
      (line.changedReply primary .portOnly).run asked = (.ok port, after)) :
    (line.measureFiltering primary).run state =
      (.ok ⟨false, some port⟩, after) := by
  rw [measureFiltering, Attempt.run_bind_of_ok hreply,
    if_neg Bool.false_ne_true, Attempt.run_bind_of_ok hport]
  rfl

theorem run_lift {α : Type} {operation : Attempt S α}
    {result : Except StunError α} (hrun : operation.run state = (result, after))
    (known : Option Filtering) :
    (lift operation).run (state, known) = (result, after, known) := by
  have hstate : operation state = (result, after) := hrun
  simp only [lift, ExceptT.run, ExceptT.mk, hstate]

theorem secondaryEndpoint_of_advertised (line : UdpLine S)
    (primary : Endpoint) (state : S) (known : Option Filtering)
    {first : Binding} {endpoint : Endpoint}
    (hother : first.other = some endpoint)
    (hip : endpoint.ip ≠ first.server.ip) :
    (line.prober primary).secondaryEndpoint first (state, known) =
      (some endpoint, state, known) := by
  have hadvertised : advertisedEndpoint first = some endpoint := by
    simp [advertisedEndpoint, hother, hip]
  change (advertisedEndpoint first, state, known) = _
  rw [hadvertised]

/-- The filtering is measured before the second endpoint is contacted. -/
theorem run_secondary
    (hmeasure :
      (line.measureFiltering primary).run state = (.ok filtering, after))
    (first : Binding) (endpoint : Endpoint) :
    ((line.prober primary).secondary first endpoint).run (state, none) =
      (((line.request endpoint .none).run after).1,
        ((line.request endpoint .none).run after).2, some filtering) := by
  have hensure :
      (line.ensureFiltering primary).run (state, none) =
        (.ok (), after, some filtering) := by
    have hknown :
        knownFiltering.run (state, none) =
          ((.ok none, state, none) :
            Except StunError (Option Filtering) × S × Option Filtering) :=
      rfl
    rw [ensureFiltering, Attempt.run_bind_of_ok hknown]
    dsimp only
    rw [Attempt.run_bind_of_ok (run_lift hmeasure none)]
    rfl
  simp only [prober]
  rw [Attempt.run_bind_of_ok hensure]
  rfl

theorem run_inbound (line : UdpLine S) (primary : Endpoint) (state : S)
    (filtering : Filtering) (first : Binding) :
    ((line.prober primary).inbound first).run (state, some filtering) =
      (.ok filtering.ipAndPort, state, some filtering) := rfl

theorem run_inboundAfterWarmUp (line : UdpLine S) (primary : Endpoint)
    (state : S) (first : Binding) (ipAndPort port : Bool) :
    ((line.prober primary).inboundAfterWarmUp first).run
        (state, some ⟨ipAndPort, some port⟩) =
      (.ok port, state, some ⟨ipAndPort, some port⟩) := rfl

end Filtering

end UdpLine

end Pinhole
