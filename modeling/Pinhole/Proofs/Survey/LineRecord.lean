import Pinhole.Proofs.Survey.Transcript

/-!
# The exchanges on a line

A recording line does what its line does, and keeps each exchange that is asked
of it with the state it began in.  So the steps of a UDP prober can be told by
the exchanges they take: the step that compares the mappings takes all that
measure the filtering as well, and the tests of unsolicited traffic take none,
since the filtering is known by then.
-/

namespace Pinhole

namespace UdpLine

variable {S : Type}

/-- What is asked of a line. -/
inductive Call where
  /-- An exchange from its own socket. -/
  | shared (server : Endpoint) (change : Change)
  /-- An exchange from a new socket. -/
  | afresh (ip : Ipv4) (server : Endpoint)
deriving DecidableEq, Repr

/-- A call, and what came of it. -/
abbrev Deed := Call × Except StunError Binding

structure Exchange (S : Type) where
  call : Call
  /-- The state in which it began. -/
  before : S
  outcome : Except StunError Binding

def Exchange.deed (exchange : Exchange S) : Deed :=
  (exchange.call, exchange.outcome)

def perform (line : UdpLine S) : Call → Attempt S Binding
  | .shared server change => line.request server change
  | .afresh ip server => line.requestAfresh ip server

/-- Carries out a call and keeps it. -/
def keeping (line : UdpLine S) (call : Call) :
    Attempt (S × List (Exchange S)) Binding :=
  ExceptT.mk fun (state, kept) =>
    let (outcome, after) := (line.perform call).run state
    (outcome, after, kept ++ [⟨call, state, outcome⟩])

/-- The line that keeps what is asked of it. -/
def recording (line : UdpLine S) : UdpLine (S × List (Exchange S)) where
  request := fun server change => line.keeping (.shared server change)
  requestAfresh := fun ip server => line.keeping (.afresh ip server)

/-- Some deeds are done one after another. -/
inductive Runs (line : UdpLine S) : S → List Deed → S → Prop
  | done (state : S) : Runs line state [] state
  | next {call : Call} {outcome : Except StunError Binding} {deeds : List Deed}
      {state asked after : S}
      (hcall : (line.perform call).run state = (outcome, asked))
      (hlater : Runs line asked deeds after) :
      Runs line state ((call, outcome) :: deeds) after

/-- Some exchanges took place one after another. -/
inductive Chain (line : UdpLine S) : S → List (Exchange S) → S → Prop
  | done (state : S) : Chain line state [] state
  | next {call : Call} {outcome : Except StunError Binding}
      {exchanges : List (Exchange S)} {state asked after : S}
      (hcall : (line.perform call).run state = (outcome, asked))
      (hlater : Chain line asked exchanges after) :
      Chain line state (⟨call, state, outcome⟩ :: exchanges) after

theorem runs_nil_iff {line : UdpLine S} {state after : S} :
    line.Runs state [] after ↔ after = state := by
  constructor
  · intro hruns
    cases hruns
    rfl
  · rintro rfl
    exact .done after

theorem runs_cons_iff {line : UdpLine S} {call : Call}
    {outcome : Except StunError Binding} {deeds : List Deed}
    {state after : S} :
    line.Runs state ((call, outcome) :: deeds) after ↔
      ∃ asked, (line.perform call).run state = (outcome, asked) ∧
        line.Runs asked deeds after := by
  constructor
  · intro hruns
    cases hruns with
    | next hcall hlater => exact ⟨_, hcall, hlater⟩
  · rintro ⟨asked, hcall, hlater⟩
    exact .next hcall hlater

theorem Chain.append {line : UdpLine S} {state asked after : S}
    {first later : List (Exchange S)} (hfirst : Chain line state first asked)
    (hlater : Chain line asked later after) :
    Chain line state (first ++ later) after := by
  induction hfirst with
  | done state => exact hlater
  | next hcall hrest ih => exact .next hcall (ih hlater)

theorem run_keeping {line : UdpLine S} {call : Call} {state after : S}
    {outcome : Except StunError Binding}
    (hcall : (line.perform call).run state = (outcome, after))
    (kept : List (Exchange S)) :
    (line.keeping call).run (state, kept) =
      (outcome, after, kept ++ [⟨call, state, outcome⟩]) := by
  have hstate : line.perform call state = (outcome, after) := hcall
  simp only [keeping, ExceptT.run, ExceptT.mk, hstate]

/-- The recording line does the same deeds and keeps them. -/
theorem Runs.recording {line : UdpLine S} {deeds : List Deed}
    {state after : S} (hruns : line.Runs state deeds after)
    (kept : List (Exchange S)) :
    ∃ exchanges, exchanges.map Exchange.deed = deeds ∧
      line.recording.Runs (state, kept) deeds (after, kept ++ exchanges) ∧
      line.Chain state exchanges after := by
  induction hruns generalizing kept with
  | done state =>
      refine ⟨[], rfl, ?_, .done state⟩
      rw [List.append_nil]
      exact .done _
  | @next call outcome deeds state asked after hcall hlater ih =>
      let exchange : Exchange S := ⟨call, state, outcome⟩
      obtain ⟨exchanges, hdeeds, hrecording, hchain⟩ := ih (kept ++ [exchange])
      refine ⟨exchange :: exchanges, ?_, ?_, .next hcall hchain⟩
      · rw [List.map_cons, hdeeds]
        rfl
      · rw [List.append_assoc, List.singleton_append] at hrecording
        have hkept := run_keeping hcall kept
        cases call <;> exact .next hkept hrecording

/-! ## The steps of a prober -/

/-- Whether a reply from elsewhere came, as far as its exchange tells. -/
def heard? : Except StunError Binding → Option Bool
  | .ok _ => some true
  | .error (.timeout _) => some false
  | .error _ => none

/-- The exchanges that the comparison with the second endpoint takes, what it
shows, and what is known about the filtering then. -/
inductive Compares (primary endpoint : Endpoint) :
    List Deed → Except StunError Binding → Option Filtering → Prop
  | unmeasured {error : StunError}
      (hfault : heard? (.error error) = none) :
      Compares primary endpoint [(.shared primary .ipAndPort, .error error)]
        (.error error) none
  | halfMeasured {both : Except StunError Binding} {error : StunError}
      (hsilent : heard? both = some false)
      (hfault : heard? (.error error) = none) :
      Compares primary endpoint
        [(.shared primary .ipAndPort, both),
          (.shared primary .portOnly, .error error)]
        (.error error) none
  | reached (binding : Binding) (outcome : Except StunError Binding) :
      Compares primary endpoint
        [(.shared primary .ipAndPort, .ok binding),
          (.shared endpoint .none, outcome)]
        outcome (some ⟨true, none⟩)
  | retried {both port : Except StunError Binding} {reached : Bool}
      (hsilent : heard? both = some false)
      (hreached : heard? port = some reached)
      (outcome : Except StunError Binding) :
      Compares primary endpoint
        [(.shared primary .ipAndPort, both), (.shared primary .portOnly, port),
          (.shared endpoint .none, outcome)]
        outcome (some ⟨false, some reached⟩)

/-- The exchanges that a step takes when it shows something, and what is known
about the filtering before and after it. -/
inductive Takes (primary : Endpoint) :
    Option Filtering → Observation → List Deed → Option Filtering → Prop
  | primary (known : Option Filtering) (outcome : Except StunError Binding) :
      Takes primary known (.primary outcome)
        [(.shared primary .none, outcome)] known
  | secondaryEndpoint (known : Option Filtering) {first : Binding}
      {answer : Option Endpoint} (hanswer : answer = advertisedEndpoint first) :
      Takes primary known (.secondaryEndpoint first answer) [] known
  | secondary (first : Binding) {endpoint : Endpoint} {deeds : List Deed}
      {outcome : Except StunError Binding} {known : Option Filtering}
      (hcompares : Compares primary endpoint deeds outcome known) :
      Takes primary none (.secondary first endpoint outcome) deeds known
  | inbound (first : Binding) {filtering : Filtering}
      {outcome : Except StunError Bool}
      (houtcome : outcome = .ok filtering.ipAndPort) :
      Takes primary (some filtering) (.inbound first outcome) []
        (some filtering)
  | inboundAfterWarmUp (first : Binding) (ipAndPort : Bool) {port : Bool}
      {outcome : Except StunError Bool} (houtcome : outcome = .ok port) :
      Takes primary (some ⟨ipAndPort, some port⟩)
        (.inboundAfterWarmUp first outcome) [] (some ⟨ipAndPort, some port⟩)
  | freshPort (known : Option Filtering) (ip : Ipv4)
      (outcome : Except StunError Binding) :
      Takes primary known (.freshPort ip outcome)
        [(.afresh ip primary, outcome)] known

section Steps

variable {line : UdpLine S} {primary endpoint : Endpoint} {state after : S}
  {deeds : List Deed} {outcome : Except StunError Binding}
  {known : Option Filtering}

theorem run_changedReply_of_heard {change : Change} {reached : Bool}
    (hrequest : (line.request primary change).run state = (outcome, after))
    (hreached : heard? outcome = some reached) :
    (line.changedReply primary change).run state = (.ok reached, after) := by
  cases outcome with
  | ok binding =>
      cases hreached
      exact run_changedReply_of_ok hrequest
  | error error =>
      cases error <;> cases hreached
      exact run_changedReply_of_timeout hrequest

theorem run_changedReply_of_fault {change : Change} {error : StunError}
    (hrequest :
      (line.request primary change).run state = (.error error, after))
    (hfault : heard? (.error error) = none) :
    (line.changedReply primary change).run state = (.error error, after) := by
  have hstate :
      line.request primary change state = (.error error, after) := hrequest
  simp only [changedReply, bind, ExceptT.run, ExceptT.mk, StateT.bind, hstate]
  cases error with
  | timeout server => cases hfault
  | _ => rfl

theorem run_secondary_of_fault {error : StunError}
    (hmeasure :
      (line.measureFiltering primary).run state = (.error error, after))
    (first : Binding) (endpoint : Endpoint) :
    ((line.prober primary).secondary first endpoint).run (state, none) =
      (.error error, after, none) := by
  have hknown :
      knownFiltering.run (state, none) =
        ((.ok none, state, none) :
          Except StunError (Option Filtering) × S × Option Filtering) :=
    rfl
  have hensure :
      (line.ensureFiltering primary).run (state, none) =
        (.error error, after, none) := by
    rw [ensureFiltering, Attempt.run_bind_of_ok hknown]
    dsimp only
    rw [Attempt.run_bind_of_error (run_lift hmeasure none)]
  simp only [prober]
  rw [Attempt.run_bind_of_error hensure]

theorem Compares.run_secondary
    (hcompares : Compares primary endpoint deeds outcome known)
    (hruns : line.Runs state deeds after) (first : Binding) :
    ((line.prober primary).secondary first endpoint).run (state, none) =
      (outcome, after, known) := by
  cases hcompares with
  | unmeasured hfault =>
      simp only [runs_cons_iff, runs_nil_iff] at hruns
      obtain ⟨asked, hboth, rfl⟩ := hruns
      have hreply := run_changedReply_of_fault hboth hfault
      apply run_secondary_of_fault
      rw [measureFiltering, Attempt.run_bind_of_error hreply]
  | halfMeasured hsilent hfault =>
      simp only [runs_cons_iff, runs_nil_iff] at hruns
      obtain ⟨asked, hboth, measured, hport, rfl⟩ := hruns
      have hreply := run_changedReply_of_heard hboth hsilent
      have hretry := run_changedReply_of_fault hport hfault
      apply run_secondary_of_fault
      rw [measureFiltering, Attempt.run_bind_of_ok hreply,
        if_neg Bool.false_ne_true, Attempt.run_bind_of_error hretry]
  | reached binding outcome =>
      simp only [runs_cons_iff, runs_nil_iff] at hruns
      obtain ⟨asked, hboth, measured, hsecond, rfl⟩ := hruns
      have hreply := run_changedReply_of_ok hboth
      have hsecond : (line.request endpoint .none).run asked = _ := hsecond
      rw [UdpLine.run_secondary (run_measureFiltering_of_true hreply),
        hsecond]
  | retried hsilent hreached outcome =>
      simp only [runs_cons_iff, runs_nil_iff] at hruns
      obtain ⟨asked, hboth, measured, hport, compared, hsecond, rfl⟩ := hruns
      have hreply := run_changedReply_of_heard hboth hsilent
      have hretry := run_changedReply_of_heard hport hreached
      have hsecond : (line.request endpoint .none).run measured = _ := hsecond
      rw [UdpLine.run_secondary (run_measureFiltering_of_false hreply hretry),
        hsecond]

theorem heard?_cases (outcome : Except StunError Binding) :
    (∃ binding, outcome = .ok binding) ∨ heard? outcome = some false ∨
      ∃ error, outcome = .error error ∧ heard? outcome = none := by
  cases outcome with
  | ok binding => exact Or.inl ⟨binding, rfl⟩
  | error error =>
      right
      cases error with
      | timeout server => exact Or.inl rfl
      | _ => exact Or.inr ⟨_, rfl, rfl⟩

/-- The comparison with the second endpoint goes one of these ways. -/
theorem exists_compares (line : UdpLine S) (primary endpoint : Endpoint)
    (state : S) :
    ∃ deeds outcome after known,
      Compares primary endpoint deeds outcome known ∧
        line.Runs state deeds after := by
  obtain ⟨both, asked, hboth⟩ : ∃ both asked,
      (line.perform (.shared primary .ipAndPort)).run state =
        (both, asked) :=
    ⟨_, _, rfl⟩
  rcases heard?_cases both with ⟨binding, rfl⟩ | hsilent | ⟨error, rfl, hfault⟩
  · obtain ⟨outcome, after, hsecond⟩ : ∃ outcome after,
        (line.perform (.shared endpoint .none)).run asked =
          (outcome, after) :=
      ⟨_, _, rfl⟩
    exact ⟨_, outcome, after, _, .reached binding outcome,
      .next hboth (.next hsecond (.done after))⟩
  · obtain ⟨port, measured, hport⟩ : ∃ port measured,
        (line.perform (.shared primary .portOnly)).run asked =
          (port, measured) :=
      ⟨_, _, rfl⟩
    cases hreached : heard? port with
    | none =>
        rcases heard?_cases port with
          ⟨binding, rfl⟩ | hheard | ⟨error, rfl, hfault⟩
        · cases hreached
        · rw [hreached] at hheard
          cases hheard
        · exact ⟨_, _, measured, none, .halfMeasured hsilent hfault,
            .next hboth (.next hport (.done measured))⟩
    | some reached =>
        obtain ⟨outcome, after, hsecond⟩ : ∃ outcome after,
            (line.perform (.shared endpoint .none)).run measured =
              (outcome, after) :=
          ⟨_, _, rfl⟩
        exact ⟨_, outcome, after, _, .retried hsilent hreached outcome,
          .next hboth (.next hport (.next hsecond (.done after)))⟩
  · exact ⟨_, _, asked, none, .unmeasured hfault,
      .next hboth (.done asked)⟩

theorem observe_eq {T α : Type} {operation : Attempt T α} {before after : T}
    {result : Except StunError α} (tell : Except StunError α → Observation)
    (hrun : operation.run before = (result, after)) :
    (do return tell (← operation.run) : StateM T Observation) before =
      (tell result, after) := by
  simp only [bind, StateT.bind, hrun]
  rfl

/-- Carrying out a step shows what its exchanges lead to. -/
theorem Takes.observe {observation : Observation}
    {before : Option Filtering}
    (htakes : Takes primary before observation deeds known)
    (hruns : line.Runs state deeds after) :
    (line.prober primary).observe observation.step (state, before) =
      (observation, after, known) := by
  cases htakes with
  | primary known outcome =>
      simp only [runs_cons_iff, runs_nil_iff] at hruns
      obtain ⟨asked, hcall, rfl⟩ := hruns
      exact observe_eq Observation.primary (run_lift hcall known)
  | secondaryEndpoint known hanswer =>
      obtain rfl := runs_nil_iff.mp hruns
      subst hanswer
      rfl
  | @secondary first endpoint deeds outcome known hcompares =>
      exact observe_eq (Observation.secondary first endpoint)
        (hcompares.run_secondary hruns first)
  | inbound first houtcome =>
      obtain rfl := runs_nil_iff.mp hruns
      subst houtcome
      rfl
  | inboundAfterWarmUp first ipAndPort houtcome =>
      obtain rfl := runs_nil_iff.mp hruns
      subst houtcome
      rfl
  | freshPort known ip outcome =>
      simp only [runs_cons_iff, runs_nil_iff] at hruns
      obtain ⟨asked, hcall, rfl⟩ := hruns
      exact observe_eq (Observation.freshPort ip) (run_lift hcall known)

/-- The tests of unsolicited traffic come after the comparison, and there is one
comparison. -/
def Ready : Step → Option Filtering → Prop
  | .secondary _ _, known => known = none
  | .inbound _, known => ∃ filtering, known = some filtering
  | .inboundAfterWarmUp _, known =>
      ∃ ipAndPort port, known = some ⟨ipAndPort, some port⟩
  | .primary, _ | .secondaryEndpoint _, _ | .freshPort _, _ => True

theorem exists_takes (line : UdpLine S) (primary : Endpoint) (state : S)
    {step : Step} {before : Option Filtering} (hready : Ready step before) :
    ∃ observation deeds after known, observation.step = step ∧
      Takes primary before observation deeds known ∧
        line.Runs state deeds after := by
  have hcall (call : Call) : ∃ outcome after,
      line.Runs state [(call, outcome)] after := by
    obtain ⟨outcome, after, hrun⟩ : ∃ outcome after,
        (line.perform call).run state = (outcome, after) :=
      ⟨_, _, rfl⟩
    exact ⟨outcome, after, .next hrun (.done after)⟩
  cases step with
  | primary =>
      obtain ⟨outcome, after, hruns⟩ := hcall (.shared primary .none)
      exact ⟨_, _, after, _, rfl, .primary before outcome, hruns⟩
  | secondaryEndpoint first =>
      exact ⟨_, _, state, _, rfl, .secondaryEndpoint before rfl, .done state⟩
  | secondary first endpoint =>
      obtain rfl : before = none := hready
      obtain ⟨deeds, outcome, after, known, hcompares, hruns⟩ :=
        exists_compares line primary endpoint state
      exact ⟨_, deeds, after, known, rfl, .secondary first hcompares, hruns⟩
  | inbound first =>
      obtain ⟨filtering, rfl⟩ := hready
      exact ⟨_, _, state, _, rfl, .inbound first rfl, .done state⟩
  | inboundAfterWarmUp first =>
      obtain ⟨ipAndPort, port, rfl⟩ := hready
      exact ⟨_, _, state, _, rfl, .inboundAfterWarmUp first ipAndPort rfl,
        .done state⟩
  | freshPort ip =>
      obtain ⟨outcome, after, hruns⟩ := hcall (.afresh ip primary)
      exact ⟨_, _, after, _, rfl, .freshPort before ip outcome, hruns⟩

end Steps

/-! ## Some steps one after another -/

/-- What some steps show when they are carried out one after another, and the
exchanges that each of them takes. -/
def ledger (line : UdpLine S) (primary : Endpoint) :
    List Step → S × Option Filtering →
      List (Observation × List (Exchange S))
  | [], _ => []
  | step :: later, (state, known) =>
      let (observation, (next, exchanges), known) :=
        (line.recording.prober primary).observe step ((state, []), known)
      (observation, exchanges) :: line.ledger primary later (next, known)

/-- The steps that were carried out showed what was seen. -/
def Shows (line : UdpLine S) (primary : Endpoint)
    (start : S × Option Filtering) (seen : List Observation)
    (after : S × Option Filtering) : Prop :=
  (seen.map Observation.step).mapM (line.prober primary).observe start =
    (seen, after)

theorem Shows.uncons {line : UdpLine S} {primary : Endpoint}
    {start after : S × Option Filtering} {observation : Observation}
    {later : List Observation}
    (hshows : line.Shows primary start (observation :: later) after) :
    ∃ told,
      (line.prober primary).observe observation.step start =
          (observation, told) ∧
        line.Shows primary told later after := by
  generalize hfirst :
    (line.prober primary).observe observation.step start = first
  obtain ⟨shown, told⟩ := first
  generalize hrest :
    (later.map Observation.step).mapM (line.prober primary).observe told = rest
  obtain ⟨others, last⟩ := rest
  have hboth : (shown :: others, last) = (observation :: later, after) := by
    rw [← hshows, List.map_cons, List.mapM_cons]
    simp only [bind, StateT.bind, hfirst, hrest]
    rfl
  cases hboth
  exact ⟨told, rfl, hrest⟩

/-- One line of the ledger. -/
theorem Shows.ledger_cons {line : UdpLine S} {primary : Endpoint} {state : S}
    {before : Option Filtering} {after : S × Option Filtering}
    {observation : Observation} {later : List Observation}
    (hshows : line.Shows primary (state, before) (observation :: later) after)
    (hready : Ready observation.step before) :
    ∃ exchanges next known,
      Takes primary before observation (exchanges.map Exchange.deed) known ∧
        line.Chain state exchanges next ∧
        line.Shows primary (next, known) later after ∧
        line.ledger primary ((observation :: later).map Observation.step)
            (state, before) =
          (observation, exchanges) ::
            line.ledger primary (later.map Observation.step)
              (next, known) := by
  obtain ⟨told, hobserve, hlater⟩ := hshows.uncons
  obtain ⟨shown, deeds, next, known, hstep, htakes, hruns⟩ :=
    exists_takes line primary state hready
  have hplain := htakes.observe hruns
  rw [hstep, hobserve] at hplain
  cases hplain
  obtain ⟨exchanges, rfl, hrecording, hchain⟩ := hruns.recording []
  refine ⟨exchanges, next, known, htakes, hchain, hlater, ?_⟩
  rw [List.map_cons, ledger, htakes.observe hrecording]
  rfl

end UdpLine

end Pinhole
