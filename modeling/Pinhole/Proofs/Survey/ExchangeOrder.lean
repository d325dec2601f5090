import Mathlib.Data.List.Count
import Pinhole.Proofs.Survey.LineCourse
import Pinhole.Proofs.Survey.LineTraffic

/-!
# The order of the exchanges

However the exchanges of a classification over UDP come out, its socket is used
for a prefix of one plan: the mapping, then the filtering, and only then the
second endpoint.  New ports are looked at last.
-/

namespace Pinhole

namespace UdpLine

def deeds (entries : List Entry) : List Deed :=
  entries.flatMap Prod.snd

/-- What an exchange of the line's own socket asks, and of whom. -/
def shared? : Deed → Option (Endpoint × Change)
  | (.shared server change, _) => some (server, change)
  | (.afresh _ _, _) => none

/-- What the line's own socket is used for, in the order of the exchanges. -/
def sharedUse (entries : List Entry) : List (Endpoint × Change) :=
  (deeds entries).filterMap shared?

def plan (primary second : Endpoint) (retried : Bool) :
    List (Endpoint × Change) :=
  [(primary, .none), (primary, .ipAndPort)] ++
    (if retried then [(primary, .portOnly)] else []) ++ [(second, .none)]

/-- An answer about the filtering is what came of an exchange. -/
def Recalls (primary : Endpoint) (change : Change) (deeds : List Deed)
    (answer : Except StunError Bool) : Prop :=
  ∃ outcome reached, (.shared primary change, outcome) ∈ deeds ∧
    heard? outcome = some reached ∧ answer = .ok reached

/-- How the entries of a classification are ordered. -/
structure Orderly (primary : Endpoint) (entries : List Entry) : Prop where
  planned : ∀ first second, .primary (.ok first) ∈ entries.map Prod.fst →
    advertisedEndpoint first = some second →
      ∃ retried, sharedUse entries <+: plan primary second retried
  retried : (primary, Change.portOnly) ∈ sharedUse entries ↔
    ∃ server,
      (.shared primary .ipAndPort, .error (.timeout server)) ∈ deeds entries
  /-- Each exchange that measures the filtering is made at most once. -/
  once : ∀ server change, change ≠ Change.none →
    (sharedUse entries).count (server, change) ≤ 1
  inbound : ∀ first answer taken, (.inbound first answer, taken) ∈ entries →
    taken = [] ∧ Recalls primary .ipAndPort (deeds entries) answer
  warmedUp : ∀ first answer taken,
    (.inboundAfterWarmUp first answer, taken) ∈ entries →
      taken = [] ∧ Recalls primary .portOnly (deeds entries) answer
  /-- There is no second exchange unless the mapping differs from the source
  and there is an endpoint to compare with. -/
  halts : (∀ first, .primary (.ok first) ∈ entries.map Prod.fst →
      first.mapped = none ∨ first.mapped = some first.source ∨
        advertisedEndpoint first = none) →
    ∃ outcome, deeds entries = [(.shared primary .none, outcome)]
  /-- New ports are looked at when the reply from elsewhere has come. -/
  fresh : ∀ earlier ip server outcome later,
    deeds entries = earlier ++ (.afresh ip server, outcome) :: later →
      server = primary ∧
        ∃ binding, (.shared primary .ipAndPort, .ok binding) ∈ earlier
  few : (deeds entries).length ≤ 6

/-! ## What is left after the comparison -/

/-- Exchanges with an endpoint from new ports. -/
def freshDeeds (primary : Endpoint)
    (fresh : List (Ipv4 × Except StunError Binding)) : List Deed :=
  fresh.map fun (ip, outcome) => (.afresh ip primary, outcome)

theorem sharedUse_freshDeeds (primary : Endpoint)
    (fresh : List (Ipv4 × Except StunError Binding)) :
    (freshDeeds primary fresh).filterMap shared? = [] := by
  rw [List.filterMap_eq_nil_iff]
  intro deed hmem
  obtain ⟨⟨ip, outcome⟩, _, rfl⟩ := List.mem_map.mp hmem
  rfl

theorem shared_notMem_freshDeeds (primary server : Endpoint) (change : Change)
    (outcome : Except StunError Binding)
    (fresh : List (Ipv4 × Except StunError Binding)) :
    (.shared server change, outcome) ∉ freshDeeds primary fresh := by
  simp [freshDeeds]

namespace Judges

variable {primary : Endpoint} {known : Option Filtering}
  {later : List Entry} {result : Except StunError (NatType × Endpoint)}

theorem deeds_eq (hjudges : Judges primary known later result) :
    ∃ fresh, deeds later = freshDeeds primary fresh ∧
      fresh.length ≤ freshPortCount ∧
      (fresh ≠ [] → ∃ filtering, known = some filtering ∧
        filtering.ipAndPort = true) := by
  cases hjudges with
  | silent known hresult => exact ⟨[], rfl, Nat.zero_le _, by simp⟩
  | @reached first filtering hreached fresh hcount result hresult =>
      refine ⟨fresh, ?_, hcount, fun _ => ⟨filtering, rfl, hreached⟩⟩
      rw [deeds, List.flatMap_cons, List.nil_append, List.flatMap_map]
      exact List.map_eq_flatMap.symm
  | warmedUp first port mapped => exact ⟨[], rfl, Nat.zero_le _, by simp⟩

theorem of_inbound (hjudges : Judges primary known later result)
    {first : Binding} {answer : Except StunError Bool} {taken : List Deed}
    (hmem : (.inbound first answer, taken) ∈ later) :
    taken = [] ∧ ∃ filtering, known = some filtering ∧
      answer = .ok filtering.ipAndPort := by
  cases hjudges with
  | silent known hresult => cases hmem
  | @reached first filtering hreached fresh hcount result hresult =>
      obtain ⟨⟨rfl, rfl⟩, rfl⟩ : (_ ∧ _) ∧ taken = [] := by
        simpa using hmem
      exact ⟨rfl, filtering, rfl, congrArg Except.ok hreached.symm⟩
  | warmedUp first port mapped =>
      obtain ⟨⟨rfl, rfl⟩, rfl⟩ : (_ ∧ _) ∧ taken = [] := by
        simpa using hmem
      exact ⟨rfl, _, rfl, rfl⟩

theorem of_inboundAfterWarmUp (hjudges : Judges primary known later result)
    {first : Binding} {answer : Except StunError Bool} {taken : List Deed}
    (hmem : (.inboundAfterWarmUp first answer, taken) ∈ later) :
    taken = [] ∧ ∃ filtering port, known = some filtering ∧
      filtering.port = some port ∧ answer = .ok port := by
  cases hjudges with
  | silent known hresult => cases hmem
  | reached first hreached hcount hresult => simp at hmem
  | warmedUp first port mapped =>
      obtain ⟨⟨rfl, rfl⟩, rfl⟩ : (_ ∧ _) ∧ taken = [] := by
        simpa using hmem
      exact ⟨rfl, _, port, rfl, rfl, rfl⟩

theorem primary_notMem (hjudges : Judges primary known later result)
    (outcome : Except StunError Binding) :
    .primary outcome ∉ later.map Prod.fst := by
  cases hjudges <;> simp

end Judges

/-! ## The comparison -/

theorem split_of_notMem {α : Type} {before after earlier later : List α}
    {item : α} (hnotMem : item ∉ before)
    (hsplit : before ++ after = earlier ++ item :: later) :
    ∃ between, earlier = before ++ between ∧
      after = between ++ item :: later := by
  rcases List.append_eq_append_iff.mp hsplit with
    ⟨between, rfl, hafter⟩ | ⟨between, rfl, hafter⟩
  · exact ⟨between, rfl, hafter⟩
  · cases between with
    | nil => exact ⟨[], by simp, by simpa using hafter.symm⟩
    | cons first others =>
        obtain ⟨rfl, _⟩ := List.cons.inj hafter
        exact absurd (List.mem_append_right _ List.mem_cons_self) hnotMem

theorem heard?_eq_false_iff {outcome : Except StunError Binding} :
    heard? outcome = some false ↔
      ∃ server, outcome = .error (.timeout server) := by
  cases outcome with
  | ok binding => simp [heard?]
  | error error => cases error <;> simp [heard?]

namespace Compares

variable {primary endpoint : Endpoint} {compared : List Deed}
  {outcome : Except StunError Binding} {known : Option Filtering}

theorem planned
    (hcompares : Compares primary endpoint compared outcome known) :
    ∃ retried,
      (primary, Change.none) :: compared.filterMap shared? <+:
        plan primary endpoint retried := by
  cases hcompares with
  | unmeasured hfault => exact ⟨false, [(endpoint, .none)], rfl⟩
  | halfMeasured hsilent hfault => exact ⟨true, [(endpoint, .none)], rfl⟩
  | reached binding outcome => exact ⟨false, List.prefix_rfl⟩
  | retried hsilent hreached outcome => exact ⟨true, List.prefix_rfl⟩

theorem retried_iff
    (hcompares : Compares primary endpoint compared outcome known) :
    (primary, Change.portOnly) ∈ compared.filterMap shared? ↔
      ∃ server,
        (.shared primary .ipAndPort, .error (.timeout server)) ∈
          compared := by
  have htimedOut (deeds : List Deed) :
      (∃ server,
        (.shared primary .ipAndPort, .error (.timeout server)) ∈ deeds) ↔
        ∃ both, (.shared primary .ipAndPort, both) ∈ deeds ∧
          heard? both = some false := by
    simp only [heard?_eq_false_iff]
    grind
  rw [htimedOut]
  have hport : Change.portOnly ≠ Change.ipAndPort := by decide
  have hplain : Change.portOnly ≠ Change.none := by decide
  have hboth : Change.ipAndPort ≠ Change.none := by decide
  cases hcompares with
  | unmeasured hfault => simp [shared?, hport, hfault]
  | halfMeasured hsilent hfault => simp [shared?, hport.symm, hsilent]
  | reached binding outcome => simp [shared?, hport, hplain, hboth, heard?]
  | retried hsilent hreached outcome =>
      simp [shared?, hport.symm, hsilent]

theorem recalls
    (hcompares : Compares primary endpoint compared outcome known)
    {filtering : Filtering} (hknown : known = some filtering) :
    Recalls primary .ipAndPort compared (.ok filtering.ipAndPort) ∧
      ∀ port, filtering.port = some port →
        Recalls primary .portOnly compared (.ok port) := by
  cases hcompares with
  | unmeasured hfault => cases hknown
  | halfMeasured hsilent hfault => cases hknown
  | reached binding outcome =>
      cases hknown
      exact ⟨⟨.ok binding, true, by simp [heard?]⟩, by simp⟩
  | @retried both port reached hsilent hreached outcome =>
      cases hknown
      refine ⟨⟨both, false, by simp [hsilent]⟩, ?_⟩
      rintro answer ⟨⟩
      exact ⟨port, reached, by simp [hreached]⟩

theorem length_le
    (hcompares : Compares primary endpoint compared outcome known) :
    compared.length ≤ 3 := by
  cases hcompares <;> simp

theorem afresh_notMem
    (hcompares : Compares primary endpoint compared outcome known)
    (ip : Ipv4) (server : Endpoint) (result : Except StunError Binding) :
    (.afresh ip server, result) ∉ compared := by
  cases hcompares <;> simp

theorem of_reached
    (hcompares : Compares primary endpoint compared outcome known)
    {filtering : Filtering} (hknown : known = some filtering)
    (hreached : filtering.ipAndPort = true) :
    ∃ binding,
      compared = [(.shared primary .ipAndPort, .ok binding),
        (.shared endpoint .none, outcome)] := by
  cases hcompares with
  | unmeasured hfault => cases hknown
  | halfMeasured hsilent hfault => cases hknown
  | reached binding outcome => exact ⟨binding, rfl⟩
  | retried hsilent hheard outcome =>
      cases hknown
      cases hreached

section Fresh

variable {fresh : List (Ipv4 × Except StunError Binding)}

theorem length_add_le
    (hcompares : Compares primary endpoint compared outcome known)
    (hcount : fresh.length ≤ freshPortCount)
    (hallowed : fresh ≠ [] → ∃ filtering, known = some filtering ∧
      filtering.ipAndPort = true) :
    compared.length + fresh.length ≤ 5 := by
  by_cases hnone : fresh = []
  · subst hnone
    exact Nat.le_trans hcompares.length_le (by decide)
  · obtain ⟨filtering, hknown, hreached⟩ := hallowed hnone
    obtain ⟨binding, rfl⟩ := hcompares.of_reached hknown hreached
    rw [freshPortCount] at hcount
    rw [List.length_cons, List.length_singleton]
    omega

/-- Whatever is asked from a new port comes behind a reply from elsewhere. -/
theorem reached_before
    (hcompares : Compares primary endpoint compared outcome known)
    (hallowed : fresh ≠ [] → ∃ filtering, known = some filtering ∧
      filtering.ipAndPort = true)
    {earlier later : List Deed} {ip : Ipv4} {server : Endpoint}
    {result : Except StunError Binding}
    (hsplit : compared ++ freshDeeds primary fresh =
      earlier ++ (.afresh ip server, result) :: later) :
    server = primary ∧
      ∃ binding, (.shared primary .ipAndPort, .ok binding) ∈ earlier := by
  obtain ⟨others, rfl, hfresh⟩ :=
    split_of_notMem (hcompares.afresh_notMem ip server result) hsplit
  have hmem : (.afresh ip server, result) ∈ freshDeeds primary fresh := by
    rw [hfresh]
    exact List.mem_append_right _ List.mem_cons_self
  obtain ⟨⟨_, _⟩, hmem, hdeed⟩ := List.mem_map.mp hmem
  cases hdeed
  obtain ⟨filtering, hknown, hreached⟩ := hallowed (List.ne_nil_of_mem hmem)
  obtain ⟨binding, rfl⟩ := hcompares.of_reached hknown hreached
  exact ⟨rfl, binding, by simp⟩

end Fresh

end Compares

/-! ## Whole classifications -/

theorem count_plan_le (primary second server : Endpoint) (retried : Bool)
    {change : Change} (hchange : change ≠ .none) :
    (plan primary second retried).count (server, change) ≤ 1 := by
  have hchanges :
      (plan primary second retried).map Prod.snd =
        [Change.none, .ipAndPort] ++
          (if retried then [Change.portOnly] else []) ++ [.none] := by
    cases retried <;> rfl
  have hcount :
      (plan primary second retried).count (server, change) ≤
        ((plan primary second retried).map Prod.snd).count change :=
    List.count_le_count_map
  rw [hchanges] at hcount
  refine Nat.le_trans hcount ?_
  obtain ⟨ip, port⟩ := change
  revert hchange
  cases retried <;> cases ip <;> cases port <;> decide

theorem Recalls.mono {primary : Endpoint} {change : Change}
    {some all : List Deed} {answer : Except StunError Bool}
    (hrecalls : Recalls primary change some answer) (hsubset : some ⊆ all) :
    Recalls primary change all answer := by
  obtain ⟨outcome, reached, hmem, hheard, hanswer⟩ := hrecalls
  exact ⟨outcome, reached, hsubset hmem, hheard, hanswer⟩

section Conducted

variable {primary : Endpoint} {entries : List Entry}
  {result : Except StunError (NatType × Endpoint)}

theorem orderly_of_alone {outcome : Except StunError Binding}
    {choice : List Entry}
    (hchoice : ∀ entry ∈ choice, ∃ first, outcome = .ok first ∧
      advertisedEndpoint first = none ∧
        entry = (.secondaryEndpoint first none, [])) :
    Orderly primary
      ((.primary outcome, [(.shared primary .none, outcome)]) :: choice) := by
  have hquiet : deeds choice = [] := by
    rw [deeds, List.flatMap_eq_nil_iff]
    intro entry hmem
    obtain ⟨first, _, _, rfl⟩ := hchoice entry hmem
    rfl
  generalize hentries :
    (Observation.primary outcome, [(Call.shared primary .none, outcome)]) ::
      choice = entries
  have hdeeds : deeds entries = [(.shared primary .none, outcome)] := by
    rw [← hentries, deeds, List.flatMap_cons]
    exact congrArg _ hquiet
  have huse : sharedUse entries = [(primary, .none)] := by
    rw [sharedUse, hdeeds]
    rfl
  have hnotChosen {observation : Observation} {taken : List Deed}
      (hmem : (observation, taken) ∈ entries) :
      observation.step = .primary ∨
        ∃ first, observation.step = .secondaryEndpoint first := by
    rw [← hentries] at hmem
    rcases List.mem_cons.mp hmem with hfirst | hmem
    · cases hfirst
      exact Or.inl rfl
    · obtain ⟨first, _, _, hentry⟩ := hchoice _ hmem
      cases hentry
      exact Or.inr ⟨first, rfl⟩
  constructor
  case planned =>
    intro first second _ _
    exact ⟨false, huse ▸ ⟨[(primary, .ipAndPort), (second, .none)], rfl⟩⟩
  case retried =>
    have hport : Change.portOnly ≠ Change.none := by decide
    have hboth : Change.ipAndPort ≠ Change.none := by decide
    simp [huse, hdeeds, hport, hboth]
  case once =>
    intro server change hchange
    rw [huse]
    exact List.count_le_length
  case inbound =>
    intro first answer taken hmem
    rcases hnotChosen hmem with hstep | ⟨_, hstep⟩ <;> cases hstep
  case warmedUp =>
    intro first answer taken hmem
    rcases hnotChosen hmem with hstep | ⟨_, hstep⟩ <;> cases hstep
  case halts =>
    intro _
    exact ⟨outcome, hdeeds⟩
  case fresh =>
    intro earlier ip server result later hsplit
    have hmem : (.afresh ip server, result) ∈ deeds entries := by
      simp [hsplit]
    simp [hdeeds] at hmem
  case few => simp [hdeeds]

theorem orderly_of_compared {first : Binding} {mapped : Endpoint}
    (hmapped : first.mapped = some mapped) (hsource : first.source ≠ mapped)
    {endpoint : Endpoint}
    (hendpoint : advertisedEndpoint first = some endpoint)
    {compared : List Deed} {outcome : Except StunError Binding}
    {known : Option Filtering}
    (hcompares : Compares primary endpoint compared outcome known)
    {later : List Entry} (hjudges : Judges primary known later result) :
    Orderly primary
      ((.primary (.ok first), [(.shared primary .none, .ok first)]) ::
        (.secondaryEndpoint first (some endpoint), []) ::
        (.secondary first endpoint outcome, compared) :: later) := by
  obtain ⟨fresh, hlater, hcount, hallowed⟩ := hjudges.deeds_eq
  let plain : Deed := (.shared primary .none, .ok first)
  generalize hentries : (Observation.primary (.ok first), [plain]) ::
    (Observation.secondaryEndpoint first (some endpoint), []) ::
      (Observation.secondary first endpoint outcome, compared) :: later =
    entries
  have hdeeds :
      deeds entries = plain :: (compared ++ freshDeeds primary fresh) := by
    rw [← hlater, ← hentries]
    rfl
  have huse :
      sharedUse entries =
        (primary, Change.none) :: compared.filterMap shared? := by
    have hplain : shared? plain = some (primary, Change.none) := rfl
    rw [sharedUse, hdeeds, List.filterMap_cons_some hplain,
      List.filterMap_append, sharedUse_freshDeeds, List.append_nil]
  have hsubset : compared ⊆ deeds entries := by
    rw [hdeeds]
    exact List.subset_cons_of_subset _ (List.subset_append_left _ _)
  obtain ⟨retried, hplanned⟩ := hcompares.planned
  rw [← huse] at hplanned
  have hfirst {other : Binding}
      (hmem : .primary (.ok other) ∈ entries.map Prod.fst) :
      other = first := by
    have hnone := hjudges.primary_notMem (.ok other)
    simpa [← hentries, hnone] using hmem
  constructor
  case planned =>
    intro other second hmem hsecond
    obtain rfl := hfirst hmem
    obtain rfl : endpoint = second :=
      Option.some.inj (hendpoint.symm.trans hsecond)
    exact ⟨retried, hplanned⟩
  case retried =>
    have hport : (primary, Change.portOnly) ≠ (primary, Change.none) := by
      simp only [ne_eq, Prod.mk.injEq, true_and]
      decide
    have hboth : Change.ipAndPort ≠ Change.none := by decide
    rw [huse, List.mem_cons, or_iff_right hport, hcompares.retried_iff, hdeeds]
    simp [plain, hboth, shared_notMem_freshDeeds]
  case once =>
    intro server change hchange
    exact Nat.le_trans (hplanned.sublist.count_le _)
      (count_plan_le primary endpoint server retried hchange)
  case inbound =>
    intro other answer taken hmem
    have hmem : (.inbound other answer, taken) ∈ later := by
      simpa [← hentries] using hmem
    obtain ⟨rfl, filtering, hknown, rfl⟩ := hjudges.of_inbound hmem
    exact ⟨rfl, (hcompares.recalls hknown).1.mono hsubset⟩
  case warmedUp =>
    intro other answer taken hmem
    have hmem : (.inboundAfterWarmUp other answer, taken) ∈ later := by
      simpa [← hentries] using hmem
    obtain ⟨rfl, filtering, port, hknown, hport, rfl⟩ :=
      hjudges.of_inboundAfterWarmUp hmem
    exact ⟨rfl, ((hcompares.recalls hknown).2 port hport).mono hsubset⟩
  case halts =>
    intro hhalts
    have hmem : .primary (.ok first) ∈ entries.map Prod.fst := by
      simp [← hentries]
    have hhalts := hhalts first hmem
    simp [hmapped, hendpoint, hsource.symm] at hhalts
  case fresh =>
    intro earlier ip server result rest hsplit
    rw [hdeeds, ← List.singleton_append] at hsplit
    have hplain : (.afresh ip server, result) ∉ [plain] := by simp [plain]
    obtain ⟨others, rfl, hrest⟩ := split_of_notMem hplain hsplit
    obtain ⟨rfl, binding, hmem⟩ := hcompares.reached_before hallowed hrest
    exact ⟨rfl, binding, List.mem_append_right _ hmem⟩
  case few =>
    rw [hdeeds, List.length_cons, List.length_append, freshDeeds,
      List.length_map]
    exact Nat.succ_le_succ (hcompares.length_add_le hcount hallowed)

theorem Conducted.orderly (hconducted : Conducted primary entries result) :
    Orderly primary entries := by
  cases hconducted with
  | halted hchoice hresult => exact orderly_of_alone hchoice
  | compared hmapped hsource hendpoint hcompares hjudges =>
      exact orderly_of_compared hmapped hsource hendpoint hcompares hjudges

end Conducted

variable {σ : Type}

theorem deeds_map_entry (ledger : List (Observation × List (Exchange σ))) :
    deeds (ledger.map entry) =
      (ledger.flatMap Prod.snd).map Exchange.deed := by
  rw [deeds, List.flatMap_map, List.map_flatMap]
  rfl

/-- What a ledger says about the run of a classification. -/
structure Conforms (socket primary : Endpoint) (settings : ExchangeSettings)
    (host : Host σ) (ledger : List (Observation × List (Exchange (Host σ))))
    (after : Host σ) : Prop where
  ordered : Orderly primary (ledger.map entry)
  chained :
    (ofSocket socket settings).Chain host (ledger.flatMap Prod.snd) after
  sent : after.sent = host.sent ++
    (ledger.flatMap Prod.snd).flatMap (Exchange.sendings socket settings)
  addressed : ∀ exchange ∈ ledger.flatMap Prod.snd, ∀ time datagram,
    (time, datagram) ∈ exchange.sendings socket settings →
      ∃ origin bound transaction,
        exchange.start? socket = some (origin, bound) ∧
          datagram = ⟨origin, exchange.call.server,
            (Message.request transaction exchange.call.change).encode⟩
  bounded :
    ((ledger.flatMap Prod.snd).flatMap
        (Exchange.sendings socket settings)).length ≤
      6 * (settings.retries.toNat + 1)

theorem Chain.conforms {socket primary : Endpoint}
    {settings : ExchangeSettings} {host after : Host σ}
    {ledger : List (Observation × List (Exchange (Host σ)))}
    (hchain :
      (ofSocket socket settings).Chain host (ledger.flatMap Prod.snd) after)
    (hordered : Orderly primary (ledger.map entry)) :
    Conforms socket primary settings host ledger after := by
  obtain ⟨hsent, hmade⟩ := hchain.made
  refine ⟨hordered, hchain, hsent, ?_, ?_⟩
  · intro exchange hmem time datagram
    exact (hmade exchange hmem).addressed
  · have hfew := hordered.few
    rw [deeds_map_entry, List.length_map] at hfew
    exact Nat.le_trans (length_flatMap_sendings_le hmade)
      (Nat.mul_le_mul_right _ hfew)

/-- However the exchanges of a classification come out, they are made in
order. -/
theorem classify_conforms (socket primary : Endpoint)
    (settings : ExchangeSettings) (host : Host σ) :
    ∃ seen classification after known,
      (classify .udp ((ofSocket socket settings).prober primary)).run
          (host, none) =
        (classification, after, known) ∧
      (classify .udp
          ((ofSocket socket settings).prober primary).recording).run
          ((host, none), []) =
        (classification, (after, known), seen.map Observation.step) ∧
      ((ofSocket socket settings).ledger primary
          (seen.map Observation.step) (host, none)).map Prod.fst = seen ∧
      Conforms socket primary settings host
        ((ofSocket socket settings).ledger primary
          (seen.map Observation.step) (host, none)) after := by
  obtain ⟨seen, result, ⟨after, known⟩, htraced, hconcluded⟩ :=
    ((ofSocket socket settings).prober primary).traced_verdict (host, none)
  have hnotes := htraced.notes []
  rw [List.nil_append] at hnotes
  obtain ⟨entries, hbooks, hconducted⟩ :=
    books_of_concluded hconcluded htraced.shows
  refine ⟨seen, _, after, known, Prober.run_classify htraced.runs .udp,
    Prober.run_classify hnotes .udp, hbooks.shown,
    hbooks.chained.conforms ?_⟩
  rw [hbooks.kept]
  exact hconducted.orderly

end UdpLine

end Pinhole
