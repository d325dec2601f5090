import Pinhole.Proofs.Survey.Verdict

/-!
# What a classification has seen

A classification asks for one step after another, and each step shows
something.  The courses that a classification can take are listed by what is
seen on each of them, in the order of the steps.
-/

namespace Pinhole

inductive Observation where
  | primary (outcome : Except StunError Binding)
  | secondaryEndpoint (first : Binding) (answer : Option Endpoint)
  | secondary (first : Binding) (endpoint : Endpoint)
      (outcome : Except StunError Binding)
  | inbound (first : Binding) (outcome : Except StunError Bool)
  | inboundAfterWarmUp (first : Binding) (outcome : Except StunError Bool)
  | freshPort (ip : Ipv4) (outcome : Except StunError Binding)

namespace Observation

def step : Observation → Step
  | primary _ => .primary
  | secondaryEndpoint first _ => .secondaryEndpoint first
  | secondary first endpoint _ => .secondary first endpoint
  | inbound first _ => .inbound first
  | inboundAfterWarmUp first _ => .inboundAfterWarmUp first
  | freshPort ip _ => .freshPort ip

end Observation

namespace Binding

variable {binding : Binding} {mapped : Endpoint}

theorem mapping_of_none (hmapped : binding.mapped = none) :
    binding.mapping = .error .missingMappedAddress := by
  rw [mapping, hmapped]

theorem mapping_of_some (hmapped : binding.mapped = some mapped) :
    binding.mapping = .ok mapped := by
  rw [mapping, hmapped]

end Binding

namespace Prober

variable {S α β : Type}

/-- Carries out a step and tells what it showed. -/
def observe (prober : Prober S) : Step → StateM S Observation
  | .primary => return .primary (← prober.primary.run)
  | .secondaryEndpoint first =>
      return .secondaryEndpoint first (← prober.secondaryEndpoint first)
  | .secondary first endpoint =>
      return .secondary first endpoint
        (← (prober.secondary first endpoint).run)
  | .inbound first => return .inbound first (← (prober.inbound first).run)
  | .inboundAfterWarmUp first =>
      return .inboundAfterWarmUp first
        (← (prober.inboundAfterWarmUp first).run)
  | .freshPort ip => return .freshPort ip (← (prober.freshPort ip).run)

/-- What was seen on the way to a result, by an operation on a prober and by
the same operation on the prober that notes its steps. -/
structure Traced (prober : Prober S) (operation : Attempt S α)
    (noting : Attempt (S × List Step) α) (start : S) (seen : List Observation)
    (result : Except StunError α) (after : S) : Prop where
  runs : operation.run start = (result, after)
  notes : ∀ steps, noting.run (start, steps) =
    (result, after, steps ++ seen.map Observation.step)
  shows : (seen.map Observation.step).mapM prober.observe start =
    (seen, after)

namespace Traced

variable {prober : Prober S} {operation : Attempt S α}
  {noting : Attempt (S × List Step) α} {start told after : S}
  {seen later : List Observation}

theorem ofResult {known result : Except StunError α}
    (hknown : known = result) :
    Traced prober (.ofResult known) (.ofResult known) start [] result
      start := by
  subst hknown
  constructor
  case runs => rfl
  case notes =>
    intro steps
    rw [List.map_nil, List.append_nil]
    rfl
  case shows => rfl

theorem pure (value : α) :
    Traced prober (pure value) (pure value) start [] (.ok value) start :=
  .ofResult rfl

theorem bind_error {error : StunError}
    (htraced : Traced prober operation noting start seen (.error error) told)
    (next : α → Attempt S β) (nextNoting : α → Attempt (S × List Step) β) :
    Traced prober (operation >>= next) (noting >>= nextNoting) start seen
      (.error error) told where
  runs := Attempt.run_bind_of_error htraced.runs next
  notes := fun steps =>
    Attempt.run_bind_of_error (htraced.notes steps) nextNoting
  shows := htraced.shows

theorem bind_ok {next : α → Attempt S β}
    {nextNoting : α → Attempt (S × List Step) β} {value : α}
    {result : Except StunError β}
    (htraced : Traced prober operation noting start seen (.ok value) told)
    (hnext : Traced prober (next value) (nextNoting value) told later result
      after) :
    Traced prober (operation >>= next) (noting >>= nextNoting) start
      (seen ++ later) result after := by
  constructor
  case runs =>
    rw [Attempt.run_bind_of_ok htraced.runs]
    exact hnext.runs
  case notes =>
    intro steps
    rw [Attempt.run_bind_of_ok (htraced.notes steps), hnext.notes,
      List.map_append, List.append_assoc]
  case shows =>
    rw [List.map_append, List.mapM_append]
    simp only [bind, StateT.bind, htraced.shows, hnext.shows]
    rfl

end Traced

variable (prober : Prober S) (start : S)

theorem traced_step (step : Step) {operation : Attempt S α}
    (tell : Except StunError α → Observation)
    (hstep : ∀ outcome, (tell outcome).step = step)
    (hobserve :
      prober.observe step = do return tell (← operation.run)) :
    ∃ outcome after,
      Traced prober operation (noting step operation) start [tell outcome]
        outcome after := by
  refine ⟨(operation.run start).1, (operation.run start).2, rfl, ?_, ?_⟩
  · intro steps
    rw [List.map_singleton, hstep]
    rfl
  · rw [List.map_singleton, hstep, List.mapM_cons, List.mapM_nil, hobserve]
    rfl

theorem traced_secondaryEndpoint (first : Binding) :
    ∃ answer after,
      Traced prober (.always (prober.secondaryEndpoint first))
        (.always (prober.recording.secondaryEndpoint first)) start
        [.secondaryEndpoint first answer] (.ok answer) after :=
  ⟨(prober.secondaryEndpoint first start).1,
    (prober.secondaryEndpoint first start).2, rfl, fun _ => rfl, rfl⟩

/-! ## Exchanges from new ports -/

/-- What exchanges from new ports show, up to the first that fails. -/
inductive Probed (ip : Ipv4) : Nat → List Observation →
    Except StunError (List (UInt16 × Option UInt16)) → Prop
  | done : Probed ip 0 [] (.ok [])
  | failed (count : Nat) (error : StunError) :
      Probed ip (count + 1) [.freshPort ip (.error error)] (.error error)
  | next (binding : Binding) {count : Nat} {seen : List Observation}
      {result : Except StunError (List (UInt16 × Option UInt16))}
      (hlater : Probed ip count seen result) :
      Probed ip (count + 1) (.freshPort ip (.ok binding) :: seen)
        (result.map fun ports =>
          (binding.source.port, binding.mapped.map Endpoint.port) :: ports)

theorem traced_freshPorts (ip : Ipv4) (count : Nat) :
    ∃ seen result after,
      Traced prober (freshPorts prober ip count)
          (freshPorts prober.recording ip count) start seen result after ∧
        Probed ip count seen result := by
  induction count generalizing start with
  | zero => exact ⟨[], .ok [], start, .pure _, .done⟩
  | succ count ih =>
      obtain ⟨outcome, told, hstep⟩ :=
        prober.traced_step start (.freshPort ip) (Observation.freshPort ip)
          (fun _ => rfl) rfl
      cases outcome with
      | error error =>
          exact ⟨_, _, _, hstep.bind_error _ _, .failed count error⟩
      | ok binding =>
          obtain ⟨seen, result, after, hlater, hprobed⟩ := ih told
          refine ⟨.freshPort ip (.ok binding) :: seen, _, after,
            hstep.bind_ok ?_, hprobed.next binding⟩
          cases result with
          | error error => exact hlater.bind_error _ _
          | ok ports =>
              rw [← List.append_nil seen]
              exact hlater.bind_ok (.pure _)

/-! ## The whole classification -/

/-- What is seen once the mapping towards the second endpoint is known. -/
inductive Judged (first second : Binding) (mapped : Endpoint) :
    List Observation → Except StunError (NatType × Endpoint) → Prop
  | symmetric (hdiffers : second.mapped ≠ some mapped) :
      Judged first second mapped [] (.ok (.symmetric, mapped))
  | unheard (hsame : second.mapped = some mapped) (error : StunError) :
      Judged first second mapped [.inbound first (.error error)]
        (.error error)
  | fullCone (hsame : second.mapped = some mapped)
      (hport : mapped.port ≠ first.source.port) :
      Judged first second mapped [.inbound first (.ok true)]
        (.ok (.fullCone, mapped))
  | probed (hsame : second.mapped = some mapped)
      (hport : mapped.port = first.source.port) {seen : List Observation}
      {result : Except StunError (List (UInt16 × Option UInt16))}
      (hprobed : Probed first.source.ip freshPortCount seen result) :
      Judged first second mapped (.inbound first (.ok true) :: seen)
        (result.map fun ports =>
          (if portsPreserved ports then .openInternet else .fullCone, mapped))
  | warmedUp (hsame : second.mapped = some mapped)
      (outcome : Except StunError Bool) :
      Judged first second mapped
        [.inbound first (.ok false), .inboundAfterWarmUp first outcome]
        (outcome.map fun reached =>
          (if reached then .restrictedCone else .portRestrictedCone, mapped))

/-- What is seen in a classification, and what it comes to. -/
inductive Concluded :
    List Observation → Except StunError (NatType × Endpoint) → Prop
  | unanswered (error : StunError) :
      Concluded [.primary (.error error)] (.error error)
  | unmapped {first : Binding} (hmapped : first.mapped = none) :
      Concluded [.primary (.ok first)] (.error .missingMappedAddress)
  | untranslated {first : Binding} {mapped : Endpoint}
      (hmapped : first.mapped = some mapped)
      (hsource : first.source = mapped) :
      Concluded [.primary (.ok first)] (.ok (.openInternet, mapped))
  | alone {first : Binding} {mapped : Endpoint}
      (hmapped : first.mapped = some mapped)
      (hsource : first.source ≠ mapped) :
      Concluded [.primary (.ok first), .secondaryEndpoint first none]
        (.ok (.unsupported, mapped))
  | uncompared {first : Binding} {mapped : Endpoint}
      (hmapped : first.mapped = some mapped)
      (hsource : first.source ≠ mapped) (endpoint : Endpoint)
      (error : StunError) :
      Concluded
        [.primary (.ok first), .secondaryEndpoint first (some endpoint),
          .secondary first endpoint (.error error)]
        (.error error)
  | compared {first second : Binding} {mapped : Endpoint}
      (hmapped : first.mapped = some mapped)
      (hsource : first.source ≠ mapped) (endpoint : Endpoint)
      {seen : List Observation}
      {result : Except StunError (NatType × Endpoint)}
      (hjudged : Judged first second mapped seen result) :
      Concluded
        (.primary (.ok first) :: .secondaryEndpoint first (some endpoint) ::
          .secondary first endpoint (.ok second) :: seen)
        result

theorem traced_judge (first second : Binding) (mapped : Endpoint) :
    ∃ seen result after,
      Traced prober (prober.judge first second mapped)
          (prober.recording.judge first second mapped) start seen result
          after ∧
        Judged first second mapped seen result := by
  unfold judge
  by_cases hsame : second.mapped = some mapped
  case neg =>
    simp only [if_pos hsame]
    exact ⟨_, _, _, .pure _, .symmetric hsame⟩
  simp only [if_neg (not_not_intro hsame)]
  obtain ⟨outcome, heard, hinbound⟩ :=
    prober.traced_step start (.inbound first) (Observation.inbound first)
      (fun _ => rfl) rfl
  cases outcome with
  | error error =>
      exact ⟨_, _, _, hinbound.bind_error _ _, .unheard hsame error⟩
  | ok reached =>
      cases reached with
      | true =>
          by_cases hport : mapped.port = first.source.port
          · obtain ⟨seen, result, after, hfresh, hprobed⟩ :=
              prober.traced_freshPorts heard first.source.ip freshPortCount
            refine ⟨_, _, after, hinbound.bind_ok ?_,
              .probed hsame hport hprobed⟩
            simp only [if_true, if_neg (not_not_intro hport)]
            cases result with
            | error error => exact hfresh.bind_error _ _
            | ok ports =>
                rw [← List.append_nil seen]
                refine hfresh.bind_ok ?_
                dsimp only [Except.map]
                split <;> exact .pure _
          · refine ⟨_, _, heard, hinbound.bind_ok ?_, .fullCone hsame hport⟩
            simp only [if_true, if_pos hport]
            exact .pure _
      | false =>
          obtain ⟨outcome, final, hwarmUp⟩ :=
            prober.traced_step heard (.inboundAfterWarmUp first)
              (Observation.inboundAfterWarmUp first) (fun _ => rfl) rfl
          refine ⟨_, _, final, hinbound.bind_ok ?_, .warmedUp hsame outcome⟩
          simp only [Bool.false_eq_true, if_false]
          cases outcome with
          | error error => exact hwarmUp.bind_error _ _
          | ok warmedUp =>
              refine hwarmUp.bind_ok ?_
              dsimp only [Except.map]
              split <;> exact .pure _

theorem traced_verdict :
    ∃ seen result after,
      Traced prober prober.verdict prober.recording.verdict start seen result
          after ∧
        Concluded seen result := by
  unfold verdict
  obtain ⟨outcome, told, hfirst⟩ :=
    prober.traced_step start .primary Observation.primary (fun _ => rfl) rfl
  cases outcome with
  | error error =>
      exact ⟨_, _, _, hfirst.bind_error _ _, .unanswered error⟩
  | ok first =>
      cases hmapped : first.mapped with
      | none =>
          refine ⟨_, _, told, hfirst.bind_ok ?_, .unmapped hmapped⟩
          exact (Traced.ofResult (Binding.mapping_of_none hmapped)).bind_error
            _ _
      | some mapped =>
          have hmapping : Traced prober (.ofResult first.mapping)
              (.ofResult first.mapping) told [] (.ok mapped) told :=
            .ofResult (Binding.mapping_of_some hmapped)
          by_cases hsource : first.source = mapped
          case pos =>
            refine ⟨_, _, told, hfirst.bind_ok (hmapping.bind_ok ?_),
              .untranslated hmapped hsource⟩
            simp only [if_pos hsource]
            exact .pure _
          obtain ⟨answer, asked, hasked⟩ :=
            prober.traced_secondaryEndpoint told first
          cases answer with
          | none =>
              refine ⟨_, _, asked, hfirst.bind_ok (hmapping.bind_ok ?_),
                .alone hmapped hsource⟩
              simp only [if_neg hsource]
              exact hasked.bind_ok (.pure _)
          | some endpoint =>
              obtain ⟨outcome, compared, hsecond⟩ :=
                prober.traced_step asked (.secondary first endpoint)
                  (Observation.secondary first endpoint) (fun _ => rfl) rfl
              cases outcome with
              | error error =>
                  refine ⟨_, _, compared,
                    hfirst.bind_ok (hmapping.bind_ok ?_),
                    .uncompared hmapped hsource endpoint error⟩
                  simp only [if_neg hsource]
                  exact hasked.bind_ok (hsecond.bind_error _ _)
              | ok second =>
                  obtain ⟨seen, result, after, hjudge, hjudged⟩ :=
                    prober.traced_judge compared first second mapped
                  refine ⟨_, _, after,
                    hfirst.bind_ok (hmapping.bind_ok ?_),
                    .compared hmapped hsource endpoint hjudged⟩
                  simp only [if_neg hsource]
                  exact hasked.bind_ok (hsecond.bind_ok hjudge)

end Prober

end Pinhole
