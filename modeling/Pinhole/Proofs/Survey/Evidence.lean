import Mathlib.Data.List.Basic
import Pinhole.Proofs.Survey.Transcript

/-!
# Reading a verdict off the observations

Whatever the steps of a classification show, it ends with the first
observation that decides it.  A step that fails is the last one, and its error
is all that is told.  Otherwise the verdict follows from what was seen.
-/

namespace Pinhole

namespace Observation

/-- The error that an outcome is. -/
def failureOf {α : Type} : Except StunError α → Option StunError
  | .ok _ => none
  | .error error => some error

/-- How a step failed.  The first exchange fails without a mapping, too. -/
def failure? : Observation → Option StunError
  | primary outcome => failureOf (outcome >>= Binding.mapping)
  | secondaryEndpoint _ _ => none
  | secondary _ _ outcome | freshPort _ outcome => failureOf outcome
  | inbound _ outcome | inboundAfterWarmUp _ outcome => failureOf outcome

/-- The local and the mapped port of an exchange from a new port. -/
def port? : Observation → Option (UInt16 × Option UInt16)
  | freshPort _ (.ok binding) =>
      some (binding.source.port, binding.mapped.map Endpoint.port)
  | _ => none

def ports (seen : List Observation) : List (UInt16 × Option UInt16) :=
  seen.filterMap port?

/-- Whether nothing is left to do after an observation. -/
def Decisive (before : List Observation) : Observation → Prop
  | primary (.ok first) =>
      first.mapped = none ∨ first.mapped = some first.source
  | secondaryEndpoint _ answer => answer = none
  | secondary first _ (.ok second) => second.mapped ≠ first.mapped
  | inbound first (.ok reached) =>
      reached = true ∧ first.mapped.map Endpoint.port ≠ some first.source.port
  | inboundAfterWarmUp _ (.ok _) => True
  | freshPort _ (.ok _) => (ports before).length + 1 = freshPortCount
  | primary (.error _) | secondary _ _ (.error _) | inbound _ (.error _)
  | inboundAfterWarmUp _ (.error _) | freshPort _ (.error _) => True

theorem decisive_of_failure? {before : List Observation}
    {observation : Observation} {error : StunError}
    (hfailure : observation.failure? = some error) :
    observation.Decisive before := by
  cases observation with
  | primary outcome =>
      cases outcome with
      | error _ => trivial
      | ok first =>
          cases hmapped : first.mapped with
          | none => exact Or.inl hmapped
          | some mapped =>
              simp [failure?, bind, Except.bind, Binding.mapping, hmapped,
                failureOf] at hfailure
  | secondaryEndpoint first answer => cases hfailure
  | secondary first endpoint outcome =>
      cases outcome with
      | error _ => trivial
      | ok _ => cases hfailure
  | inbound first outcome =>
      cases outcome with
      | error _ => trivial
      | ok _ => cases hfailure
  | inboundAfterWarmUp first outcome => cases outcome <;> trivial
  | freshPort ip outcome =>
      cases outcome with
      | error _ => trivial
      | ok _ => cases hfailure

/-- Whether observations end with the first decisive one. -/
def Stops (before seen : List Observation) : Prop :=
  ∀ earlier observation later, seen = earlier ++ observation :: later →
    (observation.Decisive (before ++ earlier) ↔ later = [])

theorem stops_singleton {before : List Observation}
    {observation : Observation} (hdecisive : observation.Decisive before) :
    Stops before [observation] := by
  intro earlier other later hsplit
  obtain ⟨rfl, hcons⟩ | ⟨_, _, hnil⟩ := List.cons_eq_append_iff.mp hsplit
  · rw [List.cons.injEq] at hcons
    obtain ⟨rfl, rfl⟩ := hcons
    rw [List.append_nil]
    exact iff_of_true hdecisive rfl
  · simp at hnil

theorem stops_cons {before seen : List Observation}
    {observation : Observation}
    (hopen : ¬ observation.Decisive before)
    (hseen : seen ≠ []) (hstops : Stops (before ++ [observation]) seen) :
    Stops before (observation :: seen) := by
  intro earlier other later hsplit
  obtain ⟨rfl, hcons⟩ | ⟨rest, rfl, hrest⟩ := List.cons_eq_append_iff.mp hsplit
  · rw [List.cons.injEq] at hcons
    obtain ⟨rfl, rfl⟩ := hcons
    rw [List.append_nil]
    exact iff_of_false hopen hseen
  · have hlater := hstops rest other later hrest
    rwa [List.append_assoc] at hlater

end Observation

theorem map_eq_error_iff {α β : Type} {outcome : Except StunError α}
    {error : StunError} (f : α → β) :
    outcome.map f = .error error ↔ outcome = .error error := by
  cases outcome <;> simp [Except.map]

theorem portsPreserved_iff {ports : List (UInt16 × Option UInt16)} :
    portsPreserved ports = true ↔
      ∃ a b c, ports = [(a, some a), (b, some b), (c, some c)] ∧
        a ≠ b ∧ a ≠ c ∧ b ≠ c := by
  constructor
  · intro hpreserved
    obtain ⟨⟨hlength, hkept⟩, hnodup⟩ :
        (ports.length = 3 ∧ ∀ entry ∈ ports, entry.2 = some entry.1) ∧
          (ports.map Prod.fst).Nodup := by
      simpa [portsPreserved, freshPortCount] using hpreserved
    obtain ⟨⟨a, kepta⟩, ⟨b, keptb⟩, ⟨c, keptc⟩, rfl⟩ :=
      List.length_eq_three.mp hlength
    simp only [List.forall_mem_cons] at hkept
    obtain ⟨rfl, rfl, rfl, _⟩ := hkept
    refine ⟨a, b, c, rfl, ?_⟩
    simpa [and_assoc] using hnodup
  · rintro ⟨a, b, c, rfl, hab, hac, hbc⟩
    simp [portsPreserved, freshPortCount, hab, hac, hbc]

/-- The steps of a classification, in order, `reached` telling whether
unsolicited traffic got through. -/
def Step.plan (first : Binding) (endpoint : Endpoint) (reached : Bool) :
    List Step :=
  [.primary, .secondaryEndpoint first, .secondary first endpoint,
      .inbound first] ++
    if reached then List.replicate freshPortCount (.freshPort first.source.ip)
    else [.inboundAfterWarmUp first]

namespace Observation

def SameMapping (seen : List Observation) (first : Binding)
    (mapped : Endpoint) : Prop :=
  ∃ endpoint second, .secondary first endpoint (.ok second) ∈ seen ∧
    second.mapped = some mapped

/-- Whether three new ports were looked at, all different and all kept. -/
def PortsKept (seen : List Observation) : Prop :=
  ∃ a b c, ports seen = [(a, some a), (b, some b), (c, some c)] ∧
    a ≠ b ∧ a ≠ c ∧ b ≠ c

/-- How each verdict follows from what was seen. -/
structure Justified (seen : List Observation) (first : Binding)
    (mapped : Endpoint) (natType : NatType) : Prop where
  openInternet : natType = .openInternet ↔
    first.source = mapped ∨
      SameMapping seen first mapped ∧ .inbound first (.ok true) ∈ seen ∧
        mapped.port = first.source.port ∧ PortsKept seen
  unsupported : natType = .unsupported ↔
    first.source ≠ mapped ∧ .secondaryEndpoint first none ∈ seen
  symmetric : natType = .symmetric ↔
    first.source ≠ mapped ∧
      ∃ endpoint second, .secondary first endpoint (.ok second) ∈ seen ∧
        second.mapped ≠ some mapped
  fullCone : natType = .fullCone ↔
    first.source ≠ mapped ∧ SameMapping seen first mapped ∧
      .inbound first (.ok true) ∈ seen ∧
      ¬ (mapped.port = first.source.port ∧ PortsKept seen)
  restrictedCone : natType = .restrictedCone ↔
    first.source ≠ mapped ∧ SameMapping seen first mapped ∧
      .inbound first (.ok false) ∈ seen ∧
      .inboundAfterWarmUp first (.ok true) ∈ seen
  portRestrictedCone : natType = .portRestrictedCone ↔
    first.source ≠ mapped ∧ SameMapping seen first mapped ∧
      .inbound first (.ok false) ∈ seen ∧
      .inboundAfterWarmUp first (.ok false) ∈ seen

end Observation

def Classification.ofResult (transport : Transport) :
    Except StunError (NatType × Endpoint) → Classification
  | .ok (natType, mapped) => ⟨transport, natType, some mapped, none⟩
  | .error error => .failed transport error

open Observation

namespace Prober

/-! ## Exchanges from new ports -/

namespace Probed

variable {ip : Ipv4} {count : Nat} {seen : List Observation}
  {result : Except StunError (List (UInt16 × Option UInt16))}

theorem step_eq (hprobed : Probed ip count seen result)
    {observation : Observation} (hmem : observation ∈ seen) :
    observation.step = .freshPort ip := by
  induction hprobed with
  | done => cases hmem
  | failed count error => rw [List.mem_singleton.mp hmem]; rfl
  | next binding hlater ih =>
      rcases List.mem_cons.mp hmem with rfl | hmem
      · rfl
      · exact ih hmem

theorem steps_prefix (hprobed : Probed ip count seen result) :
    seen.map step <+: List.replicate count (.freshPort ip) := by
  induction hprobed with
  | done => exact List.prefix_rfl
  | failed count error =>
      rw [List.replicate_succ]
      exact List.cons_prefix_cons.mpr ⟨rfl, List.nil_prefix⟩
  | next binding hlater ih =>
      rw [List.replicate_succ]
      exact List.cons_prefix_cons.mpr ⟨rfl, ih⟩

theorem ne_nil (hprobed : Probed ip count seen result) (hcount : count ≠ 0) :
    seen ≠ [] := by
  cases hprobed with
  | done => exact absurd rfl hcount
  | failed count error => exact List.cons_ne_nil _ _
  | next binding hlater => exact List.cons_ne_nil _ _

theorem stops (hprobed : Probed ip count seen result) (hcount : count ≠ 0)
    {before : List Observation}
    (hbefore : (ports before).length + count = freshPortCount) :
    Stops before seen := by
  induction hprobed generalizing before with
  | done => exact absurd rfl hcount
  | failed count error => exact stops_singleton trivial
  | @next binding count seen result hlater ih =>
      by_cases hlast : count = 0
      · subst hlast
        cases hlater
        exact stops_singleton hbefore
      · have hports :
            (ports (before ++ [.freshPort ip (.ok binding)])).length =
              (ports before).length + 1 := by
          simp [ports, port?]
        refine stops_cons ?_ (hlater.ne_nil hlast) (ih hlast ?_)
        · simp only [Decisive]
          omega
        · omega

theorem exists_failure_iff (hprobed : Probed ip count seen result)
    {error : StunError} :
    (∃ observation ∈ seen, observation.failure? = some error) ↔
      result = .error error := by
  induction hprobed with
  | done => simp
  | failed count error => simp [failure?, failureOf]
  | next binding hlater ih =>
      rw [map_eq_error_iff, ← ih]
      simp [failure?, failureOf]

theorem ports_eq (hprobed : Probed ip count seen result)
    {kept : List (UInt16 × Option UInt16)} (hresult : result = .ok kept) :
    ports seen = kept := by
  induction hprobed generalizing kept with
  | done =>
      cases hresult
      rfl
  | failed count error => cases hresult
  | @next binding count seen result hlater ih =>
      cases result with
      | error error => cases hresult
      | ok ports =>
          cases hresult
          have hports := ih rfl
          rw [← hports]
          rfl

end Probed

/-! ## The comparison of mappings and what follows -/

namespace Judged

variable {first second : Binding} {mapped : Endpoint}
  {seen : List Observation} {result : Except StunError (NatType × Endpoint)}

theorem stops (hjudged : Judged first second mapped seen result)
    (hmapped : first.mapped = some mapped) (endpoint : Endpoint)
    {before : List Observation} (hbefore : ports before = []) :
    Stops before (.secondary first endpoint (.ok second) :: seen) := by
  have hsecond (hsame : second.mapped = some mapped) :
      ¬ (Observation.secondary first endpoint (.ok second)).Decisive before :=
    not_not_intro (hsame.trans hmapped.symm)
  cases hjudged with
  | symmetric hdiffers =>
      apply stops_singleton
      simpa [Decisive, hmapped] using hdiffers
  | unheard hsame error =>
      exact stops_cons (hsecond hsame) (List.cons_ne_nil _ _)
        (stops_singleton trivial)
  | fullCone hsame hport =>
      refine stops_cons (hsecond hsame) (List.cons_ne_nil _ _)
        (stops_singleton ?_)
      simpa [Decisive, hmapped] using hport
  | probed hsame hport hprobed =>
      refine stops_cons (hsecond hsame) (List.cons_ne_nil _ _)
        (stops_cons ?_ (hprobed.ne_nil (by decide)) ?_)
      · simp [Decisive, hmapped, hport]
      · refine hprobed.stops (by decide) ?_
        simpa [ports, port?] using hbefore
  | warmedUp hsame outcome =>
      refine stops_cons (hsecond hsame) (List.cons_ne_nil _ _)
        (stops_cons ?_ (List.cons_ne_nil _ _) (stops_singleton ?_))
      · simp [Decisive]
      · cases outcome <;> trivial

theorem step_eq (hjudged : Judged first second mapped seen result)
    {observation : Observation} (hmem : observation ∈ seen) :
    observation.step = .inbound first ∨
      observation.step = .inboundAfterWarmUp first ∨
      observation.step = .freshPort first.source.ip := by
  cases hjudged with
  | symmetric hdiffers => cases hmem
  | unheard hsame error =>
      rw [List.mem_singleton.mp hmem]
      exact Or.inl rfl
  | fullCone hsame hport =>
      rw [List.mem_singleton.mp hmem]
      exact Or.inl rfl
  | probed hsame hport hprobed =>
      rcases List.mem_cons.mp hmem with rfl | hmem
      · exact Or.inl rfl
      · exact Or.inr (Or.inr (hprobed.step_eq hmem))
  | warmedUp hsame outcome =>
      rcases List.mem_pair.mp hmem with rfl | rfl
      · exact Or.inl rfl
      · exact Or.inr (Or.inl rfl)

theorem exists_failure_iff (hjudged : Judged first second mapped seen result)
    {error : StunError} :
    (∃ observation ∈ seen, observation.failure? = some error) ↔
      result = .error error := by
  cases hjudged with
  | symmetric hdiffers => simp
  | unheard hsame error => simp [failure?, failureOf]
  | fullCone hsame hport => simp [failure?, failureOf]
  | probed hsame hport hprobed =>
      rw [map_eq_error_iff, ← hprobed.exists_failure_iff]
      simp [failure?, failureOf]
  | warmedUp hsame outcome =>
      rw [map_eq_error_iff]
      cases outcome <;> simp [failure?, failureOf]

theorem steps_prefix (hjudged : Judged first second mapped seen result) :
    ∃ reached,
      seen.map step <+:
          .inbound first ::
            (if reached then
              List.replicate freshPortCount (.freshPort first.source.ip)
            else [.inboundAfterWarmUp first]) ∧
        ∀ answer, .inbound first (.ok answer) ∈ seen → answer = reached := by
  cases hjudged with
  | symmetric hdiffers => exact ⟨true, List.nil_prefix, by simp⟩
  | unheard hsame error =>
      exact ⟨true, List.cons_prefix_cons.mpr ⟨rfl, List.nil_prefix⟩, by simp⟩
  | fullCone hsame hport =>
      exact ⟨true, List.cons_prefix_cons.mpr ⟨rfl, List.nil_prefix⟩, by simp⟩
  | probed hsame hport hprobed =>
      refine ⟨true, List.cons_prefix_cons.mpr ⟨rfl, ?_⟩, ?_⟩
      · exact hprobed.steps_prefix
      · intro answer hmem
        rcases List.mem_cons.mp hmem with hhead | hmem
        · simpa using hhead
        · cases hprobed.step_eq hmem
  | warmedUp hsame outcome =>
      refine ⟨false, List.cons_prefix_cons.mpr ⟨rfl, List.prefix_rfl⟩, ?_⟩
      simp

theorem justified (hjudged : Judged first second mapped seen result)
    (hsource : first.source ≠ mapped) (endpoint : Endpoint)
    {natType : NatType} {other : Endpoint}
    (hresult : result = .ok (natType, other)) :
    other = mapped ∧
      Justified
        (.primary (.ok first) :: .secondaryEndpoint first (some endpoint) ::
          .secondary first endpoint (.ok second) :: seen)
        first mapped natType := by
  cases hjudged with
  | symmetric hdiffers =>
      cases hresult
      refine ⟨rfl, ?_⟩
      constructor <;> simp [hsource, SameMapping, hdiffers]
  | unheard hsame error => cases hresult
  | fullCone hsame hport =>
      cases hresult
      refine ⟨rfl, ?_⟩
      constructor <;> simp [hsource, SameMapping, hsame, hport]
  | @probed hsame hport fresh ports hprobed =>
      cases ports with
      | error error => cases hresult
      | ok ports =>
          have hchoice (answer : Option Endpoint) :
              .secondaryEndpoint first answer ∉ fresh :=
            fun hmem => nomatch hprobed.step_eq hmem
          have hsecond (other : Endpoint)
              (outcome : Except StunError Binding) :
              .secondary first other outcome ∉ fresh :=
            fun hmem => nomatch hprobed.step_eq hmem
          have hinbound (outcome : Except StunError Bool) :
              .inbound first outcome ∉ fresh :=
            fun hmem => nomatch hprobed.step_eq hmem
          have hkept :
              PortsKept
                  (.primary (.ok first) ::
                    .secondaryEndpoint first (some endpoint) ::
                    .secondary first endpoint (.ok second) ::
                    .inbound first (.ok true) :: fresh) ↔
                portsPreserved ports = true := by
            rw [portsPreserved_iff, ← hprobed.ports_eq rfl]
            rfl
          cases hresult
          refine ⟨rfl, ?_⟩
          by_cases hpreserved : portsPreserved ports = true
          · constructor <;>
              simp [hsource, SameMapping, hsame, hport, hkept, hpreserved,
                hchoice, hsecond, hinbound]
          · constructor <;>
              simp [hsource, SameMapping, hsame, hport, hkept, hpreserved,
                hchoice, hsecond, hinbound]
  | warmedUp hsame outcome =>
      cases outcome with
      | error error => cases hresult
      | ok reached =>
          cases hresult
          refine ⟨rfl, ?_⟩
          cases reached <;> constructor <;>
            simp [hsource, SameMapping, hsame]

end Judged

namespace Concluded

variable {seen : List Observation}
  {result : Except StunError (NatType × Endpoint)}

theorem stops (hconcluded : Concluded seen result) : Stops [] seen := by
  cases hconcluded with
  | unanswered error => exact stops_singleton trivial
  | unmapped hmapped => exact stops_singleton (Or.inl hmapped)
  | untranslated hmapped hsource =>
      apply stops_singleton
      simp [Decisive, hmapped, hsource]
  | alone hmapped hsource =>
      refine stops_cons ?_ (List.cons_ne_nil _ _) (stops_singleton rfl)
      simp [Decisive, hmapped, Ne.symm hsource]
  | uncompared hmapped hsource endpoint error =>
      refine stops_cons ?_ (List.cons_ne_nil _ _)
        (stops_cons ?_ (List.cons_ne_nil _ _) (stops_singleton trivial))
      · simp [Decisive, hmapped, Ne.symm hsource]
      · simp [Decisive]
  | compared hmapped hsource endpoint hjudged =>
      refine stops_cons ?_ (List.cons_ne_nil _ _)
        (stops_cons ?_ (List.cons_ne_nil _ _)
          (hjudged.stops hmapped endpoint rfl))
      · simp [Decisive, hmapped, Ne.symm hsource]
      · simp [Decisive]

theorem exists_failure_iff (hconcluded : Concluded seen result)
    {error : StunError} :
    (∃ observation ∈ seen, observation.failure? = some error) ↔
      result = .error error := by
  have hfirst {first : Binding} {mapped : Endpoint}
      (hmapped : first.mapped = some mapped) :
      (Observation.primary (.ok first)).failure? = none := by
    simp [failure?, bind, Except.bind, Binding.mapping_of_some hmapped,
      failureOf]
  cases hconcluded with
  | unanswered error => simp [failure?, bind, Except.bind, failureOf]
  | unmapped hmapped =>
      simp [failure?, bind, Except.bind, Binding.mapping_of_none hmapped,
        failureOf]
  | untranslated hmapped hsource => simp [hfirst hmapped]
  | alone hmapped hsource =>
      simp only [List.exists_mem_cons_iff, hfirst hmapped]
      simp [failure?]
  | uncompared hmapped hsource endpoint error =>
      simp only [List.exists_mem_cons_iff, hfirst hmapped]
      simp [failure?, failureOf]
  | compared hmapped hsource endpoint hjudged =>
      rw [← hjudged.exists_failure_iff]
      simp only [List.exists_mem_cons_iff, hfirst hmapped]
      simp [failure?, failureOf]

theorem steps_prefix (hconcluded : Concluded seen result) {first : Binding}
    (hfirst : .primary (.ok first) ∈ seen) :
    ∃ endpoint reached,
      seen.map step <+: Step.plan first endpoint reached ∧
        (∀ answer, .secondaryEndpoint first (some answer) ∈ seen →
          answer = endpoint) ∧
        ∀ answer, .inbound first (.ok answer) ∈ seen → answer = reached := by
  cases hconcluded with
  | unanswered error => simp at hfirst
  | unmapped hmapped =>
      obtain rfl : first = _ := by simpa using hfirst
      exact ⟨first.source, true, by simp [Step.plan, step], by simp, by simp⟩
  | untranslated hmapped hsource =>
      obtain rfl : first = _ := by simpa using hfirst
      exact ⟨first.source, true, by simp [Step.plan, step], by simp, by simp⟩
  | alone hmapped hsource =>
      obtain rfl : first = _ := by simpa using hfirst
      exact ⟨first.source, true, by simp [Step.plan, step], by simp, by simp⟩
  | uncompared hmapped hsource endpoint error =>
      obtain rfl : first = _ := by simpa using hfirst
      exact ⟨endpoint, true, by simp [Step.plan, step], by simp, by simp⟩
  | @compared other second mapped hmapped hsource endpoint later _ hjudged =>
      have hnotPrimary : .primary (.ok first) ∉ later := by
        intro hmem
        simpa [step] using hjudged.step_eq hmem
      obtain rfl : first = other := by simpa [hnotPrimary] using hfirst
      have hnotChoice (answer : Option Endpoint) :
          .secondaryEndpoint first answer ∉ later := by
        intro hmem
        simpa [step] using hjudged.step_eq hmem
      obtain ⟨reached, hprefix, hreached⟩ := hjudged.steps_prefix
      refine ⟨endpoint, reached, ?_, ?_, ?_⟩
      · simpa [Step.plan, step] using hprefix
      · simp [hnotChoice]
      · simpa using hreached

theorem justified (hconcluded : Concluded seen result) {natType : NatType}
    {mapped : Endpoint} (hresult : result = .ok (natType, mapped)) :
    ∃ first, .primary (.ok first) ∈ seen ∧ first.mapped = some mapped ∧
      Justified seen first mapped natType := by
  cases hconcluded with
  | unanswered error => cases hresult
  | unmapped hmapped => cases hresult
  | @untranslated first _ hmapped hsource =>
      cases hresult
      refine ⟨first, by simp, hmapped, ?_⟩
      constructor <;> simp [hsource]
  | @alone first _ hmapped hsource =>
      cases hresult
      refine ⟨first, by simp, hmapped, ?_⟩
      constructor <;> simp [hsource, SameMapping]
  | uncompared hmapped hsource endpoint error => cases hresult
  | @compared first second _ hmapped hsource endpoint later _ hjudged =>
      obtain ⟨rfl, hjustified⟩ := hjudged.justified hsource endpoint hresult
      exact ⟨first, by simp, hmapped, hjustified⟩

theorem head?_eq (hconcluded : Concluded seen result) :
    ∃ outcome, seen.head? = some (.primary outcome) := by
  cases hconcluded with
  | unanswered error => exact ⟨_, rfl⟩
  | unmapped hmapped => exact ⟨_, rfl⟩
  | untranslated hmapped hsource => exact ⟨_, rfl⟩
  | alone hmapped hsource => exact ⟨_, rfl⟩
  | uncompared hmapped hsource endpoint error => exact ⟨_, rfl⟩
  | compared hmapped hsource endpoint hjudged => exact ⟨_, rfl⟩

end Concluded

/-- What the observations of a classification are, and what it tells. -/
structure Course (transport : Transport) (seen : List Observation)
    (classification : Classification) : Prop where
  begins : ∃ outcome, seen.head? = some (.primary outcome)
  /-- The steps are made in order; all but the first are told the result of
  the first. -/
  planned : ∀ first, .primary (.ok first) ∈ seen →
    ∃ endpoint reached,
      seen.map step <+: Step.plan first endpoint reached ∧
        (∀ answer, .secondaryEndpoint first (some answer) ∈ seen →
          answer = endpoint) ∧
        ∀ answer, .inbound first (.ok answer) ∈ seen → answer = reached
  /-- The first decisive observation is the last one. -/
  stops : ∀ earlier observation later,
    seen = earlier ++ observation :: later →
      (observation.Decisive earlier ↔ later = [])
  failed : ∀ earlier observation later,
    seen = earlier ++ observation :: later →
      ∀ error, observation.failure? = some error →
        later = [] ∧
          classification = ⟨transport, .unsupported, none, some error⟩
  judged : (∀ observation ∈ seen, observation.failure? = none) →
    ∃ first mapped natType, .primary (.ok first) ∈ seen ∧
      first.mapped = some mapped ∧
      classification = ⟨transport, natType, some mapped, none⟩ ∧
      Justified seen first mapped natType

theorem run_classify {S : Type} {prober : Prober S} {start after : S}
    {result : Except StunError (NatType × Endpoint)}
    (hverdict : prober.verdict.run start = (result, after))
    (transport : Transport) :
    (classify transport prober).run start = (.ofResult transport result, after) := by
  cases result with
  | error error => exact run_classify_of_error hverdict transport
  | ok conclusion => exact run_classify_of_ok hverdict transport

theorem Concluded.course {seen : List Observation}
    {result : Except StunError (NatType × Endpoint)}
    (hconcluded : Concluded seen result) (transport : Transport) :
    Course transport seen (.ofResult transport result) := by
  have hstops := hconcluded.stops
  simp only [Stops, List.nil_append] at hstops
  constructor
  case begins => exact hconcluded.head?_eq
  case planned =>
    intro first hfirst
    exact hconcluded.steps_prefix hfirst
  case stops => exact hstops
  case failed =>
    intro earlier observation later hsplit error hfailure
    have hmem : observation ∈ seen := by simp [hsplit]
    have hresult : result = .error error :=
      hconcluded.exists_failure_iff.mp ⟨observation, hmem, hfailure⟩
    subst hresult
    exact ⟨(hstops _ _ _ hsplit).mp (decisive_of_failure? hfailure), rfl⟩
  case judged =>
    intro hnone
    cases hresult : result with
    | error error =>
        obtain ⟨observation, hmem, hfailure⟩ :=
          hconcluded.exists_failure_iff.mpr hresult
        rw [hnone observation hmem] at hfailure
        cases hfailure
    | ok conclusion =>
        obtain ⟨natType, mapped⟩ := conclusion
        obtain ⟨first, hfirst, hmapped, hjustified⟩ :=
          hconcluded.justified hresult
        exact ⟨first, mapped, natType, hfirst, hmapped, rfl, hjustified⟩

/-- Whatever a prober's steps show, the classification asks for one after
another and judges by what they show. -/
theorem classify_course {S : Type} (transport : Transport)
    (prober : Prober S) (start : S) :
    ∃ seen classification after,
      (classify transport prober).run start = (classification, after) ∧
      (classify transport prober.recording).run (start, []) =
        (classification, after, seen.map step) ∧
      (seen.map step).mapM prober.observe start = (seen, after) ∧
      Course transport seen classification := by
  obtain ⟨seen, result, after, htraced, hconcluded⟩ :=
    prober.traced_verdict start
  have hnotes := htraced.notes []
  rw [List.nil_append] at hnotes
  exact ⟨seen, .ofResult transport result, after,
    run_classify htraced.runs transport, run_classify hnotes transport,
    htraced.shows, hconcluded.course transport⟩

end Prober

end Pinhole
