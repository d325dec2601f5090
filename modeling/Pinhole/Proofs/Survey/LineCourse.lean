import Pinhole.Proofs.Survey.Evidence
import Pinhole.Proofs.Survey.LineRecord

/-!
# A classification told by its exchanges

A classification over a line either halts after its first exchange or goes on
to the comparison with the second endpoint.  What is left then takes exchanges
from new ports only, and those only if the reply from the other endpoint got
through.
-/

namespace Pinhole

namespace UdpLine

variable {S : Type}

/-- What a step showed, with the deeds it took. -/
abbrev Entry := Observation × List Deed

/-- An entry of a ledger without the states of its exchanges. -/
def entry : Observation × List (Exchange S) → Entry :=
  Prod.map id (List.map Exchange.deed)

/-- The ledger of the steps by which something was seen. -/
structure Books (line : UdpLine S) (primary : Endpoint)
    (start : S × Option Filtering) (seen : List Observation)
    (entries : List Entry) (last : S) : Prop where
  kept :
    (line.ledger primary (seen.map Observation.step) start).map entry =
      entries
  shown :
    (line.ledger primary (seen.map Observation.step) start).map Prod.fst =
      seen
  chained :
    line.Chain start.1
      ((line.ledger primary (seen.map Observation.step) start).flatMap
        Prod.snd)
      last

section Keeping

variable {line : UdpLine S} {primary : Endpoint} {state : S}
  {before : Option Filtering} {start after : S × Option Filtering}
  {observation : Observation} {later : List Observation}

theorem Shows.books_nil (hshows : line.Shows primary start [] after) :
    line.Books primary start [] [] after.1 := by
  obtain rfl : start = after := congrArg Prod.snd hshows
  exact ⟨rfl, rfl, .done start.1⟩

theorem Shows.books_cons
    (hshows : line.Shows primary (state, before) (observation :: later) after)
    (hready : Ready observation.step before) :
    ∃ deeds next known,
      Takes primary before observation deeds known ∧
        line.Shows primary (next, known) later after ∧
        ∀ entries, line.Books primary (next, known) later entries after.1 →
          line.Books primary (state, before) (observation :: later)
            ((observation, deeds) :: entries) after.1 := by
  obtain ⟨exchanges, next, known, htakes, hchain, hlater, hledger⟩ :=
    hshows.ledger_cons hready
  refine ⟨_, next, known, htakes, hlater, ?_⟩
  intro entries hbooks
  constructor
  case kept =>
    rw [hledger, List.map_cons, hbooks.kept]
    rfl
  case shown => rw [hledger, List.map_cons, hbooks.shown]
  case chained =>
    rw [hledger, List.flatMap_cons]
    exact hchain.append hbooks.chained

end Keeping

/-- The entries that follow the comparison. -/
inductive Judges (primary : Endpoint) :
    Option Filtering → List Entry → Except StunError (NatType × Endpoint) →
      Prop
  | silent (known : Option Filtering)
      {result : Except StunError (NatType × Endpoint)}
      (hresult : ∀ natType mapped, result = .ok (natType, mapped) →
        natType = .symmetric) :
      Judges primary known [] result
  | reached (first : Binding) {filtering : Filtering}
      (hreached : filtering.ipAndPort = true)
      {fresh : List (Ipv4 × Except StunError Binding)}
      (hcount : fresh.length ≤ freshPortCount)
      {result : Except StunError (NatType × Endpoint)}
      (hresult : ∀ natType mapped, result = .ok (natType, mapped) →
        natType = .openInternet ∨ natType = .fullCone) :
      Judges primary (some filtering)
        ((.inbound first (.ok true), []) ::
          fresh.map fun (ip, outcome) =>
            (.freshPort ip outcome, [(.afresh ip primary, outcome)]))
        result
  | warmedUp (first : Binding) (port : Bool) (mapped : Endpoint) :
      Judges primary (some ⟨false, some port⟩)
        [(.inbound first (.ok false), []),
          (.inboundAfterWarmUp first (.ok port), [])]
        (.ok (if port then .restrictedCone else .portRestrictedCone, mapped))

/-- The entries of a whole classification, and what it comes to. -/
inductive Conducted (primary : Endpoint) :
    List Entry → Except StunError (NatType × Endpoint) → Prop
  | halted {outcome : Except StunError Binding} {choice : List Entry}
      (hchoice : ∀ entry ∈ choice, ∃ first, outcome = .ok first ∧
        advertisedEndpoint first = none ∧
          entry = (.secondaryEndpoint first none, []))
      {result : Except StunError (NatType × Endpoint)}
      (hresult : ∀ natType mapped, result = .ok (natType, mapped) →
        natType = .unsupported ∨
          natType = .openInternet ∧ ∃ first, outcome = .ok first ∧
            first.source = mapped) :
      Conducted primary
        ((.primary outcome, [(.shared primary .none, outcome)]) :: choice)
        result
  | compared {first : Binding} {mapped : Endpoint}
      (hmapped : first.mapped = some mapped)
      (hsource : first.source ≠ mapped) {endpoint : Endpoint}
      (hendpoint : advertisedEndpoint first = some endpoint)
      {deeds : List Deed} {outcome : Except StunError Binding}
      {known : Option Filtering}
      (hcompares : Compares primary endpoint deeds outcome known)
      {later : List Entry} {result : Except StunError (NatType × Endpoint)}
      (hjudges : Judges primary known later result) :
      Conducted primary
        ((.primary (.ok first), [(.shared primary .none, .ok first)]) ::
          (.secondaryEndpoint first (some endpoint), []) ::
          (.secondary first endpoint outcome, deeds) :: later)
        result

section Course

variable {line : UdpLine S} {primary : Endpoint} {state : S}
  {known : Option Filtering} {after : S × Option Filtering}
  {seen : List Observation}

theorem books_of_probed {ip : Ipv4} {count : Nat}
    {result : Except StunError (List (UInt16 × Option UInt16))}
    (hprobed : Prober.Probed ip count seen result)
    (hshows : line.Shows primary (state, known) seen after) :
    ∃ fresh : List (Ipv4 × Except StunError Binding),
      line.Books primary (state, known) seen
          (fresh.map fun (ip, outcome) =>
            (.freshPort ip outcome, [(.afresh ip primary, outcome)]))
          after.1 ∧
        fresh.length ≤ count := by
  induction hprobed generalizing state known with
  | done => exact ⟨[], hshows.books_nil, Nat.le_refl 0⟩
  | failed count error =>
      obtain ⟨deeds, next, told, htakes, hlater, hbooks⟩ :=
        hshows.books_cons trivial
      cases htakes with
      | freshPort =>
          exact ⟨[(ip, .error error)], hbooks _ hlater.books_nil,
            Nat.succ_le_succ (Nat.zero_le count)⟩
  | next binding hprobed ih =>
      obtain ⟨deeds, next, told, htakes, hlater, hbooks⟩ :=
        hshows.books_cons trivial
      obtain ⟨fresh, hrest, hcount⟩ := ih hlater
      cases htakes with
      | freshPort =>
          exact ⟨(ip, .ok binding) :: fresh, hbooks _ hrest,
            Nat.succ_le_succ hcount⟩

theorem books_of_judged {first second : Binding} {mapped : Endpoint}
    {filtering : Filtering}
    {result : Except StunError (NatType × Endpoint)}
    (hjudged : Prober.Judged first second mapped seen result)
    (hretried : filtering.ipAndPort = false →
      ∃ port, filtering = ⟨false, some port⟩)
    (hshows : line.Shows primary (state, some filtering) seen after) :
    ∃ entries,
      line.Books primary (state, some filtering) seen entries after.1 ∧
        Judges primary (some filtering) entries result := by
  have hknown : Ready (.inbound first) (some filtering) := ⟨filtering, rfl⟩
  cases hjudged with
  | symmetric hdiffers =>
      refine ⟨[], hshows.books_nil, .silent _ ?_⟩
      rintro natType mapped ⟨⟩
      rfl
  | unheard hsame error =>
      obtain ⟨_, _, _, htakes, _⟩ := hshows.books_cons hknown
      cases htakes with
      | inbound _ houtcome => cases houtcome
  | fullCone hsame hport =>
      obtain ⟨_, next, _, htakes, hlater, hbooks⟩ := hshows.books_cons hknown
      cases htakes with
      | inbound _ houtcome =>
          have hcount : ([] : List (Ipv4 × Except StunError Binding)).length ≤
              freshPortCount :=
            Nat.zero_le freshPortCount
          refine ⟨_, hbooks _ hlater.books_nil,
            .reached first (Except.ok.inj houtcome).symm hcount ?_⟩
          rintro natType mapped ⟨⟩
          exact Or.inr rfl
  | @probed hsame hport fresh ports hprobed =>
      obtain ⟨_, next, _, htakes, hlater, hbooks⟩ := hshows.books_cons hknown
      cases htakes with
      | inbound _ houtcome =>
          obtain ⟨fresh, hrest, hcount⟩ := books_of_probed hprobed hlater
          refine ⟨_, hbooks _ hrest,
            .reached first (Except.ok.inj houtcome).symm hcount ?_⟩
          intro natType mapped hresult
          cases ports with
          | error error => cases hresult
          | ok ports =>
              cases hresult
              split
              · exact Or.inl rfl
              · exact Or.inr rfl
  | warmedUp hsame outcome =>
      obtain ⟨_, next, _, htakes, hlater, hbooks⟩ := hshows.books_cons hknown
      cases htakes with
      | inbound _ houtcome =>
          obtain ⟨port, rfl⟩ := hretried (Except.ok.inj houtcome).symm
          obtain ⟨_, last, _, hwarmUp, hdone, hlast⟩ :=
            hlater.books_cons ⟨false, port, rfl⟩
          cases hwarmUp with
          | inboundAfterWarmUp _ _ houtcome =>
              subst houtcome
              exact ⟨_, hbooks _ (hlast _ hdone.books_nil),
                .warmedUp first port mapped⟩

/-- What is known once the mappings were compared. -/
theorem Compares.known_of_ok {endpoint : Endpoint} {deeds : List Deed}
    {second : Binding}
    (hcompares : Compares primary endpoint deeds (.ok second) known) :
    ∃ filtering, known = some filtering ∧
      (filtering.ipAndPort = false →
        ∃ port, filtering = ⟨false, some port⟩) := by
  cases hcompares with
  | reached binding outcome => exact ⟨_, rfl, by simp⟩
  | retried hsilent hreached outcome => exact ⟨_, rfl, fun _ => ⟨_, rfl⟩⟩

theorem Shows.books_primary {outcome : Except StunError Binding}
    {later : List Observation}
    (hshows :
      line.Shows primary (state, known) (.primary outcome :: later) after) :
    ∃ next, line.Shows primary (next, known) later after ∧
      ∀ entries, line.Books primary (next, known) later entries after.1 →
        line.Books primary (state, known) (.primary outcome :: later)
          ((.primary outcome, [(.shared primary .none, outcome)]) :: entries)
          after.1 := by
  obtain ⟨_, next, _, htakes, hlater, hbooks⟩ := hshows.books_cons trivial
  cases htakes with
  | primary => exact ⟨next, hlater, hbooks⟩

theorem Shows.books_secondaryEndpoint {first : Binding}
    {answer : Option Endpoint} {later : List Observation}
    (hshows :
      line.Shows primary (state, known)
        (.secondaryEndpoint first answer :: later) after) :
    advertisedEndpoint first = answer ∧
      ∃ next, line.Shows primary (next, known) later after ∧
        ∀ entries, line.Books primary (next, known) later entries after.1 →
          line.Books primary (state, known)
            (.secondaryEndpoint first answer :: later)
            ((.secondaryEndpoint first answer, []) :: entries) after.1 := by
  obtain ⟨_, next, _, htakes, hlater, hbooks⟩ := hshows.books_cons trivial
  cases htakes with
  | secondaryEndpoint _ hanswer => exact ⟨hanswer.symm, next, hlater, hbooks⟩

theorem Shows.books_secondary {first : Binding} {endpoint : Endpoint}
    {outcome : Except StunError Binding} {later : List Observation}
    (hshows :
      line.Shows primary (state, none)
        (.secondary first endpoint outcome :: later) after) :
    ∃ deeds next known, Compares primary endpoint deeds outcome known ∧
      line.Shows primary (next, known) later after ∧
        ∀ entries, line.Books primary (next, known) later entries after.1 →
          line.Books primary (state, none)
            (.secondary first endpoint outcome :: later)
            ((.secondary first endpoint outcome, deeds) :: entries)
            after.1 := by
  obtain ⟨deeds, next, known, htakes, hlater, hbooks⟩ := hshows.books_cons rfl
  cases htakes with
  | secondary _ hcompares =>
      exact ⟨deeds, next, known, hcompares, hlater, hbooks⟩

/-- Whatever a line's exchanges come to, the classification halts after the
first of them or compares. -/
theorem books_of_concluded {result : Except StunError (NatType × Endpoint)}
    (hconcluded : Prober.Concluded seen result)
    (hshows : line.Shows primary (state, none) seen after) :
    ∃ entries, line.Books primary (state, none) seen entries after.1 ∧
      Conducted primary entries result := by
  cases hconcluded with
  | unanswered error =>
      obtain ⟨next, hlater, hbooks⟩ := hshows.books_primary
      refine ⟨_, hbooks _ hlater.books_nil,
        .halted (List.forall_mem_nil _) ?_⟩
      rintro natType mapped ⟨⟩
  | unmapped hmapped =>
      obtain ⟨next, hlater, hbooks⟩ := hshows.books_primary
      refine ⟨_, hbooks _ hlater.books_nil,
        .halted (List.forall_mem_nil _) ?_⟩
      rintro natType mapped ⟨⟩
  | untranslated hmapped hsource =>
      obtain ⟨next, hlater, hbooks⟩ := hshows.books_primary
      refine ⟨_, hbooks _ hlater.books_nil,
        .halted (List.forall_mem_nil _) ?_⟩
      rintro natType mapped ⟨⟩
      exact Or.inr ⟨rfl, _, rfl, hsource⟩
  | alone hmapped hsource =>
      obtain ⟨next, hlater, hbooks⟩ := hshows.books_primary
      obtain ⟨hanswer, last, hdone, hlast⟩ := hlater.books_secondaryEndpoint
      refine ⟨_, hbooks _ (hlast _ hdone.books_nil),
        .halted (List.forall_mem_singleton.mpr ⟨_, rfl, hanswer, rfl⟩) ?_⟩
      rintro natType mapped ⟨⟩
      exact Or.inl rfl
  | uncompared hmapped hsource endpoint error =>
      obtain ⟨next, hlater, hbooks⟩ := hshows.books_primary
      obtain ⟨hanswer, asked, hrest, hasked⟩ := hlater.books_secondaryEndpoint
      obtain ⟨deeds, last, known, hcompares, hdone, hlast⟩ :=
        hrest.books_secondary
      refine ⟨_, hbooks _ (hasked _ (hlast _ hdone.books_nil)),
        .compared hmapped hsource hanswer hcompares (.silent known ?_)⟩
      rintro natType mapped ⟨⟩
  | compared hmapped hsource endpoint hjudged =>
      obtain ⟨next, hlater, hbooks⟩ := hshows.books_primary
      obtain ⟨hanswer, asked, hrest, hasked⟩ := hlater.books_secondaryEndpoint
      obtain ⟨deeds, last, known, hcompares, hjudge, hlast⟩ :=
        hrest.books_secondary
      obtain ⟨filtering, rfl, hretried⟩ := hcompares.known_of_ok
      obtain ⟨entries, hjudged, hjudges⟩ :=
        books_of_judged hjudged hretried hjudge
      exact ⟨_, hbooks _ (hasked _ (hlast _ hjudged)),
        .compared hmapped hsource hanswer hcompares hjudges⟩

end Course

end UdpLine

end Pinhole
