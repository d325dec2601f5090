import Mathlib.Data.List.Chain
import Pinhole.Cli.Run
import Pinhole.Proofs.Net.Elapsing

/-!
# A supervisor on a host

A supervisor that forwards is told nothing but what the host it runs on comes
to.  A look-up and the start of an engine are carried out on that host; an
engine that runs may stop at any time and for any reason; the provider may
answer any publication at any time; and a pause ends when it is over.  Nothing
else is assumed of the host, which may change in every way between two events.

What begins and what ends is written down in a log.  One turn does one of six
things, and every fact about a log is a case analysis over them.
-/

namespace Pinhole

open Supervisor (PublicationId)

variable {σ : Type}

namespace Supervision

/-! ## What is written down -/

inductive Mark where
  /-- A look-up begins. -/
  | lookUp
  | lookedUp (outcome : Except StunError Endpoint)
  /-- The first call of a publication. -/
  | published (publication : PublicationId) (record : DnsRecord)
  /-- An engine is started, and what this comes to. -/
  | launched (mapped : Endpoint)
      (outcome : Except ForwardError (Endpoint × Engine))
  /-- An engine has stopped or was not started. -/
  | ended (outcome : Except ForwardError Unit)

/-- Each mark with the host as it was at that moment. -/
abbrev Log (σ : Type) := List (Host σ × Mark)

def eventMark? : Supervisor.Event → Option Mark
  | .lookedUp outcome => some (.lookedUp outcome)
  | .engineEnded outcome => some (.ended outcome)
  | .checked _ | .answered .. | .tick => none

section

variable (supervision : Supervision)

/-- Looks the mapping up. -/
def lookUp : StateM (Host σ) (Except StunError Endpoint) :=
  (supervision.lookup.run supervision.origin).run

/-- Starts an engine for a mapping. -/
def launch (mapped : Endpoint) :
    StateM (Host σ) (Except ForwardError (Endpoint × Engine)) :=
  Engine.launchOn supervision.lookup.transport supervision.origin mapped

/-- The mark of what a supervisor asks for, if `started` publications were
started before.  A call for one of those is not its first. -/
def effectMark? (started : Nat) (host : Host σ) :
    Supervisor.Effect → Option Mark
  | .lookUp => some .lookUp
  | .startEngine mapped =>
      some (.launched mapped ((supervision.launch mapped).run host).1)
  | .callProvider publication record =>
      if started ≤ publication then some (.published publication record)
      else none
  | .checkService | .checkMapping _ | .log _ => none

def turnMarks (supervisor : Supervisor) (host : Host σ)
    (event : Supervisor.Event) : List Mark :=
  (eventMark? event).toList ++
    (supervisor.step host.now event).2.filterMap
      (supervision.effectMark? supervisor.started host)

end

/-! ## Courses -/

/-- A supervisor, the host as it was when what the supervisor waits for began,
the instant of the last event, and what was written down. -/
structure Watch (σ : Type) where
  supervisor : Supervisor
  begun : Host σ
  since : Instant
  log : Log σ

section

variable (supervision : Supervision)

def start (host : Host σ) : Watch σ :=
  let (supervisor, effects) := Supervisor.startForward supervision.name
  { supervisor := supervisor
    begun := host
    since := host.now
    log := (effects.filterMap (supervision.effectMark? 0 host)).map (host, ·) }

/-- Tells the supervisor an event. -/
def tell (watch : Watch σ) (host : Host σ) (event : Supervisor.Event) :
    Watch σ :=
  let marks := supervision.turnMarks watch.supervisor host event
  { supervisor := (watch.supervisor.step host.now event).1
    begun := if marks.isEmpty then watch.begun else host
    since := host.now
    log := watch.log ++ marks.map (host, ·) }

/-- What a supervisor can be told next, and the host at that moment. -/
inductive Occurs (watch : Watch σ) (host : Host σ) : Supervisor.Event → Prop
  | lookedUp {outcome}
      (hmode : watch.supervisor.mode = .forward .lookingUp)
      (hrun : supervision.lookUp.run watch.begun = (outcome, host)) :
      Occurs watch host (.lookedUp outcome)
  | refused {mapped error}
      (hmode : watch.supervisor.mode = .forward (.running mapped))
      (hrun : (supervision.launch mapped).run watch.begun =
        (.error error, host)) :
      Occurs watch host (.engineEnded (.error error))
  | stopped {mapped engine launched outcome}
      (hmode : watch.supervisor.mode = .forward (.running mapped))
      (hrun : (supervision.launch mapped).run watch.begun =
        (.ok engine, launched))
      (hlater : launched.now ≤ host.now) :
      Occurs watch host (.engineEnded outcome)
  | answered {publication outcome} :
      Occurs watch host (.answered publication outcome)
  | tick : Occurs watch host .tick

/-- The instant by which what began on a host is over, unless it is an engine
that runs. -/
def due? (begun : Host σ) : ForwardMode → Option Instant
  | .lookingUp => some (supervision.lookUp.run begun).2.now
  | .running mapped =>
      match (supervision.launch mapped).run begun with
      | (.error _, after) => some after.now
      | (.ok _, _) => none
  | .pausing wakeUp => some wakeUp

/-- What a supervisor waits for is not over before an instant. -/
def Prompt (watch : Watch σ) (now : Instant) : Prop :=
  ∀ mode due, watch.supervisor.mode = .forward mode →
    supervision.due? watch.begun mode = some due → now ≤ due

/-- What a supervision can have come to.  No event is told late. -/
inductive Course (first : Host σ) : Watch σ → Prop
  | start : Course first (supervision.start first)
  | next {watch host event} (hcourse : Course first watch)
      (hlater : watch.since ≤ host.now)
      (hprompt : supervision.Prompt watch host.now)
      (hoccurs : supervision.Occurs watch host event) :
      Course first (supervision.tell watch host event)

end

/-! ## One turn -/

/-- The mode that a turn leads to, and the marks that it leaves. -/
inductive Turn (supervision : Supervision) (mode : ForwardMode)
    (started : Nat) (begun host : Host σ) : ForwardMode → List Mark → Prop
  | quiet : Turn supervision mode started begun host mode []
  | failed {error} (hmode : mode = .lookingUp)
      (hrun : supervision.lookUp.run begun = (.error error, host)) :
      Turn supervision mode started begun host
        (.pausing (host.now + ForwardMode.lookupPause))
        [.lookedUp (.error error)]
  | found {mapped} (hmode : mode = .lookingUp)
      (hrun : supervision.lookUp.run begun = (.ok mapped, host)) :
      Turn supervision mode started begun host (.running mapped)
        [.lookedUp (.ok mapped), .published started ⟨supervision.name, mapped⟩,
          .launched mapped ((supervision.launch mapped).run host).1]
  | refused {mapped error} (hmode : mode = .running mapped)
      (hrun : (supervision.launch mapped).run begun = (.error error, host)) :
      Turn supervision mode started begun host
        (.pausing (host.now + ForwardMode.restartPause))
        [.ended (.error error)]
  | stopped {mapped engine launched outcome} (hmode : mode = .running mapped)
      (hrun : (supervision.launch mapped).run begun = (.ok engine, launched))
      (hlater : launched.now ≤ host.now) :
      Turn supervision mode started begun host
        (.pausing (host.now + ForwardMode.restartPause)) [.ended outcome]
  | resumed {wakeUp} (hmode : mode = .pausing wakeUp)
      (hdue : wakeUp ≤ host.now) :
      Turn supervision mode started begun host .lookingUp [.lookUp]

def Mark.publication? : Mark → Option PublicationId
  | published publication _ => some publication
  | lookUp | lookedUp _ | launched .. | ended _ => none

/-- A supervisor of this supervision, in a mode, that has numbered its
publications. -/
structure Serves (supervision : Supervision) (mode : ForwardMode)
    (supervisor : Supervisor) : Prop where
  mode : supervisor.mode = .forward mode
  name : supervisor.name = supervision.name
  numbered : ∀ entry ∈ supervisor.publications, entry.1 < supervisor.started

section Step

variable {supervision : Supervision} {mode : ForwardMode}
  {supervisor : Supervisor}

theorem filterMap_effectMark?_resume
    (hserves : supervision.Serves mode supervisor) (now : Instant)
    (host : Host σ) :
    (supervisor.resume now).2.filterMap
      (supervision.effectMark? supervisor.started host) = [] := by
  rw [Supervisor.resume, List.filterMap_filterMap,
    List.filterMap_eq_nil_iff]
  intro entry hentry
  have hnumbered := Nat.not_le.mpr (hserves.numbered entry hentry)
  cases entry.2.resume? now with
  | none => rfl
  | some publication => exact if_neg hnumbered

theorem Serves.resume (hserves : supervision.Serves mode supervisor)
    (now : Instant) :
    supervision.Serves mode (supervisor.resume now).1 where
  mode := hserves.mode
  name := hserves.name
  numbered := by
    intro entry hentry
    obtain ⟨before, hbefore, rfl⟩ := List.mem_map.mp hentry
    exact hserves.numbered before hbefore

theorem filterMap_effectMark?_answer (supervisor : Supervisor)
    (now : Instant) (publication : PublicationId)
    (outcome : Except String Unit) (host : Host σ) :
    (supervisor.answer now publication outcome).2.filterMap
      (supervision.effectMark? supervisor.started host) = [] := by
  unfold Supervisor.answer
  cases supervisor.publications.lookup publication with
  | none => rfl
  | some held =>
      cases outcome <;> dsimp only <;> split <;> rfl

/-- A publication that was answered stands under its number, if at all. -/
theorem mem_publications_answer {entry : PublicationId × Publication}
    {now : Instant} {publication : PublicationId}
    {outcome : Except String Unit}
    (hentry : entry ∈
      (supervisor.answer now publication outcome).1.publications) :
    ∃ before ∈ supervisor.publications, before.1 = entry.1 := by
  unfold Supervisor.answer at hentry
  cases hlookup : supervisor.publications.lookup publication with
  | none =>
      rw [hlookup] at hentry
      exact ⟨entry, hentry, rfl⟩
  | some held =>
      obtain ⟨front, back, hheld, _⟩ := List.lookup_eq_some_iff.mp hlookup
      have hothers : ∀ other, other ∈ supervisor.publications.filter
          (fun entry => entry.1 ≠ publication) →
          other ∈ supervisor.publications :=
        fun _ hother => (List.mem_filter.mp hother).1
      rw [hlookup] at hentry
      dsimp only at hentry
      split at hentry
      · exact ⟨entry, hothers entry hentry, rfl⟩
      · exact ⟨entry, hothers entry hentry, rfl⟩
      · rcases List.mem_append.mp hentry with hother | hsame
        · exact ⟨entry, hothers entry hother, rfl⟩
        · rw [List.mem_singleton] at hsame
          refine ⟨(publication, held), ?_, by rw [hsame]⟩
          rw [hheld]
          exact List.mem_append_right _ List.mem_cons_self

theorem fields_answer (supervisor : Supervisor) (now : Instant)
    (publication : PublicationId) (outcome : Except String Unit) :
    (supervisor.answer now publication outcome).1.mode = supervisor.mode ∧
      (supervisor.answer now publication outcome).1.name = supervisor.name ∧
      (supervisor.answer now publication outcome).1.started =
        supervisor.started := by
  unfold Supervisor.answer
  cases supervisor.publications.lookup publication with
  | none => exact ⟨rfl, rfl, rfl⟩
  | some held => dsimp only; split <;> exact ⟨rfl, rfl, rfl⟩

theorem Serves.answer (hserves : supervision.Serves mode supervisor)
    (now : Instant) (publication : PublicationId)
    (outcome : Except String Unit) :
    supervision.Serves mode
      (supervisor.answer now publication outcome).1 := by
  obtain ⟨hmode, hname, hstarted⟩ :=
    fields_answer supervisor now publication outcome
  constructor
  case mode => exact hmode.trans hserves.mode
  case name => exact hname.trans hserves.name
  case numbered =>
    intro entry hentry
    obtain ⟨before, hbefore, hsame⟩ := mem_publications_answer hentry
    rw [hstarted, ← hsame]
    exact hserves.numbered before hbefore

/-- What a turn does to the supervisor. -/
structure Turned (supervision : Supervision) (mode : ForwardMode)
    (supervisor : Supervisor) (begun host : Host σ) (next : Supervisor)
    (marks : List Mark) : Prop where
  turn : ∃ after, supervision.Serves after next ∧
    Turn supervision mode supervisor.started begun host after marks
  started : next.started =
    supervisor.started + (marks.filterMap Mark.publication?).length

theorem turnMarks_found (hserves : supervision.Serves .lookingUp supervisor)
    (host : Host σ) (mapped : Endpoint) :
    supervision.turnMarks supervisor host (.lookedUp (.ok mapped)) =
      [.lookedUp (.ok mapped),
        .published supervisor.started ⟨supervision.name, mapped⟩,
        .launched mapped ((supervision.launch mapped).run host).1] := by
  obtain ⟨hmode, hname, _⟩ := hserves
  obtain ⟨name, kind, publications, started⟩ := supervisor
  cases hmode
  cases hname
  have hfirst : (if started ≤ started then
      some (Mark.published started ⟨supervision.name, mapped⟩)
    else none) = some (.published started ⟨supervision.name, mapped⟩) :=
    if_pos (Nat.le_refl started)
  change [Mark.lookedUp (.ok mapped)] ++ List.filterMap _
    [Supervisor.Effect.callProvider started ⟨supervision.name, mapped⟩,
      .startEngine mapped] = _
  simp only [List.filterMap_cons, effectMark?, hfirst]
  rfl

theorem turned_found {begun host : Host σ} {mapped : Endpoint}
    (hserves : supervision.Serves .lookingUp supervisor)
    (hrun : supervision.lookUp.run begun = (.ok mapped, host)) :
    supervision.Turned .lookingUp supervisor begun host
      (supervisor.step host.now (.lookedUp (.ok mapped))).1
      (supervision.turnMarks supervisor host (.lookedUp (.ok mapped))) := by
  rw [turnMarks_found hserves]
  obtain ⟨hmode, hname, hnumbered⟩ := hserves
  obtain ⟨name, kind, publications, started⟩ := supervisor
  cases hmode
  refine ⟨⟨.running mapped, ⟨rfl, hname, ?_⟩, .found rfl hrun⟩, rfl⟩
  intro entry hentry
  rcases List.mem_append.mp hentry with hold | hnew
  · exact Nat.lt_succ_of_lt (hnumbered entry hold)
  · rw [List.mem_singleton.mp hnew]
    exact Nat.lt_succ_self started

theorem turned_failed {begun host : Host σ} {error : StunError}
    (hserves : supervision.Serves .lookingUp supervisor)
    (hrun : supervision.lookUp.run begun = (.error error, host)) :
    supervision.Turned .lookingUp supervisor begun host
      (supervisor.step host.now (.lookedUp (.error error))).1
      (supervision.turnMarks supervisor host
        (.lookedUp (.error error))) := by
  obtain ⟨hmode, hname, hnumbered⟩ := hserves
  obtain ⟨name, kind, publications, started⟩ := supervisor
  cases hmode
  exact ⟨⟨_, ⟨rfl, hname, hnumbered⟩, .failed rfl hrun⟩, rfl⟩

theorem turned_ended {begun host : Host σ} {mapped : Endpoint}
    {outcome : Except ForwardError Unit}
    (hserves : supervision.Serves (.running mapped) supervisor)
    (hturn : supervision.Turn (.running mapped) supervisor.started begun host
      (.pausing (host.now + ForwardMode.restartPause)) [.ended outcome]) :
    supervision.Turned (.running mapped) supervisor begun host
      (supervisor.step host.now (.engineEnded outcome)).1
      (supervision.turnMarks supervisor host (.engineEnded outcome)) := by
  obtain ⟨hmode, hname, hnumbered⟩ := hserves
  obtain ⟨name, kind, publications, started⟩ := supervisor
  cases hmode
  exact ⟨⟨_, ⟨rfl, hname, hnumbered⟩, hturn⟩, rfl⟩

/-- The calls of publications that go on leave no mark. -/
theorem turnMarks_tick {host : Host σ} {after : ForwardMode}
    {effects : List Supervisor.Effect}
    (hserves : supervision.Serves mode supervisor)
    (hstep : supervisor.stepMode host.now .tick =
      ({ supervisor with mode := .forward after }, effects)) :
    supervision.turnMarks supervisor host .tick = effects.filterMap
      (supervision.effectMark? supervisor.started host) := by
  have hafter : supervision.Serves after
      { supervisor with mode := .forward after } :=
    ⟨rfl, hserves.name, hserves.numbered⟩
  have hcalls := filterMap_effectMark?_resume hafter host.now host
  simp only [turnMarks, Supervisor.step, hstep, eventMark?,
    List.filterMap_append]
  exact (congrArg (_ ++ ·) hcalls).trans (List.append_nil _)

theorem turned_tick_of_stepMode {begun host : Host σ} {after : ForwardMode}
    {marks : List Mark} (effects : List Supervisor.Effect)
    (hserves : supervision.Serves mode supervisor)
    (hstep : supervisor.stepMode host.now .tick =
      ({ supervisor with mode := .forward after }, effects))
    (hmarks : effects.filterMap
      (supervision.effectMark? supervisor.started host) = marks)
    (hturn : supervision.Turn mode supervisor.started begun host after marks)
    (hnone : marks.filterMap Mark.publication? = []) :
    supervision.Turned mode supervisor begun host
      (supervisor.step host.now .tick).1
      (supervision.turnMarks supervisor host .tick) := by
  have hafter : supervision.Serves after
      { supervisor with mode := .forward after } :=
    ⟨rfl, hserves.name, hserves.numbered⟩
  have hnext : (supervisor.step host.now .tick).1 =
      (Supervisor.resume { supervisor with mode := .forward after }
        host.now).1 := by
    simp only [Supervisor.step, hstep]
  rw [turnMarks_tick hserves hstep, hmarks, hnext]
  refine ⟨⟨after, hafter.resume host.now, hturn⟩, ?_⟩
  rw [hnone]
  rfl

theorem stepMode_tick_of_due {wakeUp now : Instant}
    (hmode : supervisor.mode = .forward (.pausing wakeUp))
    (hdue : wakeUp ≤ now) :
    supervisor.stepMode now .tick =
      ({ supervisor with mode := .forward .lookingUp }, [.lookUp]) := by
  simp only [Supervisor.stepMode, hmode, Supervisor.Event.toForward?,
    ForwardMode.step, if_pos hdue]
  rfl

theorem turned_tick (hserves : supervision.Serves mode supervisor)
    (begun host : Host σ) :
    supervision.Turned mode supervisor begun host
      (supervisor.step host.now .tick).1
      (supervision.turnMarks supervisor host .tick) := by
  have hmode := hserves.mode
  cases mode with
  | lookingUp =>
      refine turned_tick_of_stepMode [] hserves ?_ rfl .quiet rfl
      simp only [Supervisor.stepMode, hmode]
      rfl
  | running mapped =>
      refine turned_tick_of_stepMode [] hserves ?_ rfl .quiet rfl
      simp only [Supervisor.stepMode, hmode]
      rfl
  | pausing wakeUp =>
      by_cases hdue : wakeUp ≤ host.now
      · exact turned_tick_of_stepMode [.lookUp] hserves
          (stepMode_tick_of_due hmode hdue) rfl (.resumed rfl hdue) rfl
      · refine turned_tick_of_stepMode [] hserves ?_ rfl .quiet rfl
        simp only [Supervisor.stepMode, hmode, Supervisor.Event.toForward?,
          ForwardMode.step, if_neg hdue]
        rfl

theorem turned_step {watch : Watch σ} {host : Host σ}
    {event : Supervisor.Event}
    (hserves : supervision.Serves mode watch.supervisor)
    (hoccurs : supervision.Occurs watch host event) :
    supervision.Turned mode watch.supervisor watch.begun host
      (watch.supervisor.step host.now event).1
      (supervision.turnMarks watch.supervisor host event) := by
  have hsame {other : ForwardMode}
      (hother : watch.supervisor.mode = .forward other) : mode = other := by
    have hmode := hserves.mode.symm.trans hother
    cases hmode
    rfl
  cases hoccurs with
  | lookedUp hlooking hrun =>
      cases hsame hlooking
      cases hfound : ‹Except StunError Endpoint› with
      | error error => exact turned_failed hserves (hfound ▸ hrun)
      | ok mapped => exact turned_found hserves (hfound ▸ hrun)
  | refused hrunning hrun =>
      cases hsame hrunning
      exact turned_ended hserves (.refused rfl hrun)
  | stopped hrunning hrun hlater =>
      cases hsame hrunning
      exact turned_ended hserves (.stopped rfl hrun hlater)
  | @answered publication outcome =>
      have hnone : supervision.turnMarks watch.supervisor host
          (.answered publication outcome) = [] :=
        filterMap_effectMark?_answer watch.supervisor host.now publication
          outcome host
      rw [hnone]
      exact ⟨⟨mode, hserves.answer host.now publication outcome, .quiet⟩,
        (fields_answer watch.supervisor host.now publication outcome).2.2⟩
  | tick => exact turned_tick hserves watch.begun host

end Step

/-! ## Starting an engine -/

theorem run_bindingListener_of_ok {α : Type} {origin listener : Endpoint}
    {host bound : Host σ}
    (hbind : (Host.bind origin).run host = (.ok listener, bound))
    (start : Endpoint → StateM (Host σ) (Except ForwardError α)) :
    (bindingListener origin start).run host = (start listener).run bound := by
  have hstate : Host.bind origin host = (.ok listener, bound) := hbind
  simp only [bindingListener, bind, StateT.run, StateT.bind, hstate]

theorem run_bindingListener_of_error {α : Type} {origin : Endpoint}
    {cause : SystemError} {host bound : Host σ}
    (hbind : (Host.bind origin).run host = (.error cause, bound))
    (start : Endpoint → StateM (Host σ) (Except ForwardError α)) :
    (bindingListener origin start).run host =
      (.error (.bind origin cause), bound) := by
  have hstate : Host.bind origin host = (.error cause, bound) := hbind
  simp only [bindingListener, bind, StateT.run, StateT.bind, hstate]
  rfl

/-- An engine that was started is bound first. -/
theorem run_launch_eq_ok {supervision : Supervision}
    {mapped listener : Endpoint} {host : Host σ} {engine : Engine}
    (hlaunch : ((supervision.launch mapped).run host).1 =
      .ok (listener, engine)) :
    ∃ bound, (Host.bind supervision.origin).run host = (.ok listener, bound) ∧
      ((Engine.startOn supervision.lookup.transport mapped).run bound).1 =
        .ok engine := by
  rw [launch, Engine.launchOn] at hlaunch
  cases hbind : (Host.bind supervision.origin).run host with
  | mk outcome bound =>
      cases outcome with
      | error cause =>
          rw [run_bindingListener_of_error hbind] at hlaunch
          cases hlaunch
      | ok found =>
          rw [run_bindingListener_of_ok hbind] at hlaunch
          change Except.map _ ((Engine.startOn supervision.lookup.transport
            mapped).run bound).1 = _ at hlaunch
          cases hstart : ((Engine.startOn supervision.lookup.transport
              mapped).run bound).1 with
          | error error =>
              rw [hstart] at hlaunch
              cases hlaunch
          | ok started =>
              rw [hstart] at hlaunch
              cases hlaunch
              exact ⟨bound, rfl, hstart⟩

/-! ## The log -/

/-- What comes next in a log. -/
inductive Next (supervision : Supervision) :
    Host σ × Mark → Host σ × Mark → Prop
  | lookedUp {begun host : Host σ} {outcome}
      (hrun : supervision.lookUp.run begun = (outcome, host))
      (hlater : begun.now ≤ host.now) :
      Next supervision (begun, .lookUp) (host, .lookedUp outcome)
  | retried {host later : Host σ} {error}
      (hpause : later.now = host.now + Duration.seconds 10) :
      Next supervision (host, .lookedUp (.error error)) (later, .lookUp)
  | published {host : Host σ} {mapped publication} :
      Next supervision (host, .lookedUp (.ok mapped))
        (host, .published publication ⟨supervision.name, mapped⟩)
  | launched {host : Host σ} {mapped publication} :
      Next supervision
        (host, .published publication ⟨supervision.name, mapped⟩)
        (host, .launched mapped ((supervision.launch mapped).run host).1)
  | refused {begun host : Host σ} {mapped error}
      (hrun : (supervision.launch mapped).run begun = (.error error, host))
      (hlater : begun.now ≤ host.now) :
      Next supervision (begun, .launched mapped (.error error))
        (host, .ended (.error error))
  | stopped {begun host : Host σ} {mapped engine outcome}
      (hlater : begun.now ≤ host.now) :
      Next supervision (begun, .launched mapped (.ok engine))
        (host, .ended outcome)
  | restarted {host later : Host σ} {outcome}
      (hpause : later.now = host.now + Duration.seconds 5) :
      Next supervision (host, .ended outcome) (later, .lookUp)

/-- The mode of a supervisor goes with the last entry of its log. -/
inductive Standing (supervision : Supervision) :
    ForwardMode → Host σ × Mark → Prop
  | lookingUp {host : Host σ} : Standing supervision .lookingUp (host, .lookUp)
  | failed {host : Host σ} {error} :
      Standing supervision (.pausing (host.now + Duration.seconds 10))
        (host, .lookedUp (.error error))
  | running {host : Host σ} {mapped} :
      Standing supervision (.running mapped)
        (host, .launched mapped ((supervision.launch mapped).run host).1)
  | ended {host : Host σ} {outcome} :
      Standing supervision (.pausing (host.now + Duration.seconds 5))
        (host, .ended outcome)

section Log

variable {supervision : Supervision} {mode after : ForwardMode}
  {started : Nat} {first begun host : Host σ} {marks : List Mark}

/-- A turn starts the next publication, or none. -/
theorem Turn.publications
    (hturn : supervision.Turn mode started begun host after marks) :
    marks.filterMap Mark.publication? =
      List.range' started (marks.filterMap Mark.publication?).length := by
  cases hturn <;> rfl

/-- A turn leaves everything as it was, or continues the log. -/
theorem Turn.continues {last : Mark}
    (hturn : supervision.Turn mode started begun host after marks)
    (hstanding : supervision.Standing mode (begun, last))
    (hlater : begun.now ≤ host.now)
    (hprompt : ∀ wakeUp, mode = .pausing wakeUp → host.now ≤ wakeUp) :
    (marks = [] ∧ after = mode) ∨
      ∃ latest, (marks.map (Prod.mk host)).getLast? = some (host, latest) ∧
        supervision.Standing after (host, latest) ∧
        ((begun, last) :: marks.map (host, ·)).IsChain supervision.Next := by
  cases hturn with
  | quiet => exact Or.inl ⟨rfl, rfl⟩
  | failed hmode hrun =>
      subst hmode
      cases hstanding
      exact Or.inr ⟨_, rfl, .failed,
        .cons_cons (.lookedUp hrun hlater) (.singleton _)⟩
  | found hmode hrun =>
      subst hmode
      cases hstanding
      exact Or.inr ⟨_, rfl, .running, .cons_cons (.lookedUp hrun hlater)
        (.cons_cons .published (.cons_cons .launched (.singleton _)))⟩
  | refused hmode hrun =>
      subst hmode
      cases hstanding
      rw [hrun]
      exact Or.inr ⟨_, rfl, .ended,
        .cons_cons (.refused hrun hlater) (.singleton _)⟩
  | stopped hmode hrun hstopped =>
      subst hmode
      cases hstanding
      rw [hrun]
      exact Or.inr ⟨_, rfl, .ended,
        .cons_cons (.stopped hlater) (.singleton _)⟩
  | resumed hmode hdue =>
      subst hmode
      have hnow := Int.le_antisymm (hprompt _ rfl) hdue
      cases hstanding with
      | failed =>
          exact Or.inr ⟨_, rfl, .lookingUp,
            .cons_cons (.retried hnow) (.singleton _)⟩
      | ended =>
          exact Or.inr ⟨_, rfl, .lookingUp,
            .cons_cons (.restarted hnow) (.singleton _)⟩

/-- What the log tells about a supervision, and what is to come. -/
structure Recorded (supervision : Supervision) (first : Host σ)
    (watch : Watch σ) : Prop where
  standing : ∃ mode last, supervision.Serves mode watch.supervisor ∧
    watch.log.getLast? = some (watch.begun, last) ∧
    supervision.Standing mode (watch.begun, last)
  begins : watch.log.head? = some (first, .lookUp)
  next : watch.log.IsChain supervision.Next
  numbered : watch.log.filterMap (fun entry => entry.2.publication?) =
    List.range watch.supervisor.started
  since : watch.begun.now ≤ watch.since
  timely : supervision.Prompt watch watch.since

/-- What begins does not end before. -/
theorem Standing.now_le {last : Mark} {due : Instant}
    (hstanding : supervision.Standing mode (begun, last))
    (hdue : supervision.due? begun mode = some due) : begun.now ≤ due := by
  cases hstanding with
  | lookingUp =>
      cases hdue
      exact Elapses.lookup supervision.lookup supervision.origin begun
  | @running _ mapped =>
      have hlaunch := Elapses.launchOn supervision.lookup.transport
        supervision.origin mapped begun
      change _ ≤ ((supervision.launch mapped).run begun).2.now at hlaunch
      rw [due?] at hdue
      split at hdue
      · rename_i error after hrun
        cases hdue
        rw [hrun] at hlaunch
        exact hlaunch
      · cases hdue
  | failed =>
      cases hdue
      exact Int.le_add_of_nonneg_right (Int.natCast_nonneg _)
  | ended =>
      cases hdue
      exact Int.le_add_of_nonneg_right (Int.natCast_nonneg _)

theorem recorded_start (supervision : Supervision) (first : Host σ) :
    supervision.Recorded first (supervision.start first) where
  standing :=
    ⟨.lookingUp, .lookUp, ⟨rfl, rfl, by rintro entry ⟨⟩⟩, rfl, .lookingUp⟩
  begins := rfl
  next := .singleton _
  numbered := rfl
  since := Int.le_refl _
  timely := by
    intro mode due hmode hdue
    cases hmode
    have hstanding : supervision.Standing .lookingUp (first, .lookUp) :=
      .lookingUp
    exact hstanding.now_le hdue

/-- Nothing was written down, and the supervisor waits for the same. -/
theorem Recorded.unmarked {watch : Watch σ} {next : Supervisor}
    {now : Instant} (hrecorded : supervision.Recorded first watch)
    (hserves : ∀ mode, supervision.Serves mode watch.supervisor →
      supervision.Serves mode next)
    (hstarted : next.started = watch.supervisor.started)
    (hlater : watch.since ≤ now) (hprompt : supervision.Prompt watch now) :
    supervision.Recorded first
      { watch with supervisor := next, since := now } := by
  obtain ⟨mode, last, hbefore, hlast, hstanding⟩ := hrecorded.standing
  have hafter := hserves mode hbefore
  constructor
  case standing => exact ⟨mode, last, hafter, hlast, hstanding⟩
  case begins => exact hrecorded.begins
  case next => exact hrecorded.next
  case numbered => exact hstarted ▸ hrecorded.numbered
  case since => exact Int.le_trans hrecorded.since hlater
  case timely =>
    intro other due hother hdue
    cases hafter.mode.symm.trans hother
    exact hprompt _ due hbefore.mode hdue

/-- What was written down goes on from the last entry, and something new is
waited for. -/
theorem Recorded.marked {watch : Watch σ} {next : Supervisor}
    {last latest : Mark} (hrecorded : supervision.Recorded first watch)
    (hlast : watch.log.getLast? = some (watch.begun, last))
    (hlatest : (marks.map (Prod.mk host)).getLast? = some (host, latest))
    (hchain : ((watch.begun, last) :: marks.map (host, ·)).IsChain
      supervision.Next)
    (hafter : supervision.Serves after next)
    (hstanding : supervision.Standing after (host, latest))
    (hpublications : marks.filterMap Mark.publication? =
      List.range' watch.supervisor.started
        (marks.filterMap Mark.publication?).length)
    (hstarted : next.started = watch.supervisor.started +
      (marks.filterMap Mark.publication?).length) :
    supervision.Recorded first
      ⟨next, host, host.now, watch.log ++ marks.map (host, ·)⟩ := by
  constructor
  case standing =>
    refine ⟨after, latest, hafter, ?_, hstanding⟩
    rw [List.getLast?_append, hlatest]
    rfl
  case begins =>
    rw [List.head?_append, hrecorded.begins]
    rfl
  case next =>
    refine List.isChain_append.mpr ⟨hrecorded.next, hchain.tail, ?_⟩
    intro before hbefore entry hentry
    rw [hlast, Option.mem_some_iff] at hbefore
    subst hbefore
    exact (List.isChain_cons.mp hchain).1 entry hentry
  case numbered =>
    rw [List.filterMap_append, hrecorded.numbered, List.filterMap_map,
      hstarted, List.range_add, ← List.range'_eq_map_range]
    exact congrArg _ hpublications
  case since => exact Int.le_refl _
  case timely =>
    intro other due hother hdue
    cases hafter.mode.symm.trans hother
    exact hstanding.now_le hdue

theorem Recorded.tell {watch : Watch σ} {event : Supervisor.Event}
    (hrecorded : supervision.Recorded first watch)
    (hlater : watch.since ≤ host.now)
    (hprompt : supervision.Prompt watch host.now)
    (hoccurs : supervision.Occurs watch host event) :
    supervision.Recorded first (supervision.tell watch host event) := by
  obtain ⟨mode, last, hserves, hlast, hstanding⟩ := hrecorded.standing
  have hturned := turned_step hserves hoccurs
  obtain ⟨after, hafter, hturn⟩ := hturned.turn
  have hstarted := hturned.started
  have hpausing : ∀ wakeUp, mode = .pausing wakeUp → host.now ≤ wakeUp := by
    rintro wakeUp rfl
    exact hprompt _ wakeUp hserves.mode rfl
  unfold Supervision.tell
  generalize supervision.turnMarks watch.supervisor host event = marks at *
  generalize (watch.supervisor.step host.now event).1 = next at *
  rcases hturn.continues hstanding
    (Int.le_trans hrecorded.since hlater) hpausing with ⟨rfl, rfl⟩ |
    ⟨latest, hlatest, hstanding', hchain⟩
  · have hkept : ∀ other, supervision.Serves other watch.supervisor →
        supervision.Serves other next := by
      intro other hother
      cases hother.mode.symm.trans hserves.mode
      exact hafter
    simpa using hrecorded.unmarked hkept hstarted hlater hprompt
  · have hsome : marks.isEmpty = false := by
      cases marks with
      | nil => cases hlatest
      | cons mark marks => rfl
    dsimp only
    rw [hsome]
    exact hrecorded.marked hlast hlatest hchain hafter hstanding'
      hturn.publications hstarted

theorem Course.recorded {watch : Watch σ}
    (hcourse : supervision.Course first watch) :
    supervision.Recorded first watch := by
  induction hcourse with
  | start => exact recorded_start supervision first
  | next hcourse hlater hprompt hoccurs ih =>
      exact ih.tell hlater hprompt hoccurs

/-! ## What can come next -/

theorem prompt_of_due {watch : Watch σ} {due : Instant}
    (hmode : watch.supervisor.mode = .forward mode)
    (hdue : supervision.due? watch.begun mode = some due) :
    supervision.Prompt watch due := by
  intro other latest hother hlatest
  cases hmode.symm.trans hother
  cases hdue.symm.trans hlatest
  exact Int.le_refl _

theorem Course.lookedUp {watch : Watch σ} {outcome : Except StunError Endpoint}
    (hcourse : supervision.Course first watch)
    (hmode : watch.supervisor.mode = .forward .lookingUp)
    (hrun : supervision.lookUp.run watch.begun = (outcome, host)) :
    supervision.Course first
      (supervision.tell watch host (.lookedUp outcome)) := by
  have hdue : supervision.due? watch.begun .lookingUp = some host.now := by
    rw [due?, hrun]
  exact hcourse.next (hcourse.recorded.timely _ _ hmode hdue)
    (prompt_of_due hmode hdue) (.lookedUp hmode hrun)

theorem Course.refused {watch : Watch σ} {mapped : Endpoint}
    {error : ForwardError} (hcourse : supervision.Course first watch)
    (hmode : watch.supervisor.mode = .forward (.running mapped))
    (hrun : (supervision.launch mapped).run watch.begun =
      (.error error, host)) :
    supervision.Course first
      (supervision.tell watch host (.engineEnded (.error error))) := by
  have hdue : supervision.due? watch.begun (.running mapped) =
      some host.now := by
    rw [due?, hrun]
  exact hcourse.next (hcourse.recorded.timely _ _ hmode hdue)
    (prompt_of_due hmode hdue) (.refused hmode hrun)

/-- An engine that runs may stop at any time. -/
theorem Course.stopped {watch : Watch σ} {mapped : Endpoint}
    {engine : Endpoint × Engine} {launched : Host σ}
    {outcome : Except ForwardError Unit}
    (hcourse : supervision.Course first watch)
    (hmode : watch.supervisor.mode = .forward (.running mapped))
    (hrun : (supervision.launch mapped).run watch.begun =
      (.ok engine, launched))
    (hsince : watch.since ≤ host.now) (hlater : launched.now ≤ host.now) :
    supervision.Course first
      (supervision.tell watch host (.engineEnded outcome)) := by
  refine hcourse.next hsince ?_ (.stopped hmode hrun hlater)
  intro other due hother hdue
  cases hmode.symm.trans hother
  rw [due?, hrun] at hdue
  cases hdue

theorem Course.resumed {watch : Watch σ}
    (hcourse : supervision.Course first watch)
    (hmode : watch.supervisor.mode = .forward (.pausing host.now)) :
    supervision.Course first (supervision.tell watch host .tick) :=
  hcourse.next (hcourse.recorded.timely _ _ hmode rfl)
    (prompt_of_due hmode rfl) .tick

theorem mode_tell_lookedUp {watch : Watch σ}
    (hmode : watch.supervisor.mode = .forward .lookingUp)
    (outcome : Except StunError Endpoint) :
    (supervision.tell watch host (.lookedUp outcome)).supervisor.mode =
      .forward (match outcome with
        | .ok mapped => .running mapped
        | .error _ => .pausing (host.now + ForwardMode.lookupPause)) := by
  cases outcome <;>
    simp only [Supervision.tell, Supervisor.step, Supervisor.stepMode, hmode,
      Supervisor.Event.toForward?, ForwardMode.step] <;> rfl

theorem mode_tell_engineEnded {watch : Watch σ} {mapped : Endpoint}
    (hmode : watch.supervisor.mode = .forward (.running mapped))
    (outcome : Except ForwardError Unit) :
    (supervision.tell watch host (.engineEnded outcome)).supervisor.mode =
      .forward (.pausing (host.now + ForwardMode.restartPause)) := by
  simp only [Supervision.tell, Supervisor.step, Supervisor.stepMode, hmode,
    Supervisor.Event.toForward?, ForwardMode.step]
  rfl

/-! ## What comes before -/

theorem Next.eq_lookUp {before : Host σ × Mark}
    {outcome : Except StunError Endpoint}
    (hnext : supervision.Next before (host, .lookedUp outcome)) :
    ∃ begun, before = (begun, .lookUp) ∧
      supervision.lookUp.run begun = (outcome, host) := by
  cases hnext with
  | lookedUp hrun hlater => exact ⟨_, rfl, hrun⟩

theorem Next.eq_lookedUp {before : Host σ × Mark}
    {publication : PublicationId} {mapped : Endpoint}
    (hnext : supervision.Next before
      (host, .published publication ⟨supervision.name, mapped⟩)) :
    before = (host, .lookedUp (.ok mapped)) := by
  cases hnext with
  | published => rfl

theorem Next.eq_published {before : Host σ × Mark} {mapped : Endpoint}
    {outcome : Except ForwardError (Endpoint × Engine)}
    (hnext : supervision.Next before (host, .launched mapped outcome)) :
    ((supervision.launch mapped).run host).1 = outcome ∧
      ∃ publication, before =
        (host, .published publication ⟨supervision.name, mapped⟩) := by
  cases hnext with
  | launched => exact ⟨rfl, _, rfl⟩

/-- Whatever is in a log but a look-up follows something else. -/
theorem exists_previous {front later : Log σ} {entry : Host σ × Mark}
    (hbegins : (front ++ entry :: later).head? = some (first, .lookUp))
    (hnext : (front ++ entry :: later).IsChain supervision.Next)
    (hother : entry.2 ≠ .lookUp) :
    ∃ before previous, front = before ++ [previous] ∧
      supervision.Next previous entry := by
  rcases List.eq_nil_or_concat' front with rfl | ⟨before, previous, rfl⟩
  · cases hbegins
    exact absurd rfl hother
  · refine ⟨before, previous, rfl, ?_⟩
    rw [List.append_assoc] at hnext
    exact (List.isChain_cons_cons.mp
      (List.isChain_append.mp hnext).2.1).1

/-- What an engine is given was found by the look-up just before, and was
published in between. -/
theorem Recorded.round {watch : Watch σ} {mapped : Endpoint}
    {outcome : Except ForwardError (Endpoint × Engine)} {front later : Log σ}
    (hrecorded : supervision.Recorded first watch)
    (hlog : watch.log = front ++ (host, .launched mapped outcome) :: later) :
    ∃ before begun publication,
      front = before ++ [(begun, .lookUp), (host, .lookedUp (.ok mapped)),
        (host, .published publication ⟨supervision.name, mapped⟩)] ∧
      supervision.lookUp.run begun = (.ok mapped, host) ∧
      ((supervision.launch mapped).run host).1 = outcome := by
  have hbegins := hrecorded.begins
  have hchain := hrecorded.next
  rw [hlog] at hbegins hchain
  obtain ⟨front, previous, rfl, hnext⟩ :=
    exists_previous hbegins hchain (by simp)
  obtain ⟨hlaunch, publication, rfl⟩ := hnext.eq_published
  rw [List.append_assoc] at hbegins hchain
  obtain ⟨front, previous, rfl, hnext⟩ :=
    exists_previous hbegins hchain (by simp)
  cases hnext.eq_lookedUp
  rw [List.append_assoc] at hbegins hchain
  obtain ⟨front, previous, rfl, hnext⟩ :=
    exists_previous hbegins hchain (by simp)
  obtain ⟨begun, rfl, hrun⟩ := hnext.eq_lookUp
  refine ⟨front, begun, publication, ?_, hrun, hlaunch⟩
  rw [List.append_assoc, List.append_assoc]
  rfl

/-- A first look-up that succeeds, and the engine after it. -/
def firstEngine (supervision : Supervision) (first site : Host σ)
    (mapped : Endpoint) : Watch σ :=
  supervision.tell (supervision.start first) site (.lookedUp (.ok mapped))

theorem course_firstEngine {site : Host σ} {mapped : Endpoint}
    (hrun : supervision.lookUp.run first = (.ok mapped, site)) :
    supervision.Course first (supervision.firstEngine first site mapped) :=
  Course.start.lookedUp rfl hrun

theorem log_firstEngine (supervision : Supervision) (first site : Host σ)
    (mapped : Endpoint) :
    (supervision.firstEngine first site mapped).log =
      [(first, .lookUp), (site, .lookedUp (.ok mapped)),
        (site, .published 0 ⟨supervision.name, mapped⟩),
        (site, .launched mapped ((supervision.launch mapped).run site).1)] :=
  rfl

theorem launched_firstEngine {site : Host σ} {mapped : Endpoint}
    {outcome : Except ForwardError (Endpoint × Engine)}
    (hlaunch : ((supervision.launch mapped).run site).1 = outcome) :
    (site, .launched mapped outcome) ∈
      (supervision.firstEngine first site mapped).log := by
  rw [log_firstEngine, hlaunch]
  simp

end Log

/-! ## An isolated host -/

theorem run_engineEnd (supervision : Supervision) (mapped : Endpoint)
    (host : Host Unit) :
    (OfflineRun.engineEnd supervision.offline mapped).run host =
      (match ((supervision.launch mapped).run host).1 with
        | .error error => some (.error error)
        | .ok _ => none,
        ((supervision.launch mapped).run host).2) := by
  have hlaunch : (OfflineRun.engineEnd supervision.offline mapped).run host =
      ((match · with
        | .error error => return some (.error error)
        | .ok _ => return none : Except ForwardError (Endpoint × Engine) →
          StateM (Host Unit) (Option (Except ForwardError Unit)))
        ((supervision.launch mapped).run host).1).run
        ((supervision.launch mapped).run host).2 := rfl
  rw [hlaunch]
  cases ((supervision.launch mapped).run host).1 <;> rfl

/-- What an isolated host answers a supervisor is what can occur there. -/
theorem occurs_of_perform {supervision : Supervision} {watch : Watch Unit}
    {run after : OfflineRun} {mode : ForwardMode}
    {effect : Supervisor.Effect} {event : Supervisor.Event}
    (hhost : run.host = watch.begun)
    (hmode : watch.supervisor.mode = .forward mode)
    (hasked : (effect = .lookUp ∧ mode = .lookingUp) ∨
      ∃ mapped, effect = .startEngine mapped ∧ mode = .running mapped)
    (hperform : (OfflineRun.perform supervision.offline effect).run run =
      (some event, after)) :
    supervision.Occurs watch after.host event := by
  rcases hasked with ⟨rfl, rfl⟩ | ⟨mapped, rfl, rfl⟩
  · cases hperform
    exact .lookedUp hmode (hhost ▸ rfl)
  · have hend : (OfflineRun.perform supervision.offline
        (.startEngine mapped)).run run =
          ((((OfflineRun.engineEnd supervision.offline mapped).run
              run.host).1.map .engineEnded),
            { run with
              host := ((OfflineRun.engineEnd supervision.offline mapped).run
                run.host).2 }) := rfl
    rw [hend, run_engineEnd, hhost] at hperform
    cases hlaunch : (supervision.launch mapped).run watch.begun with
    | mk outcome launched =>
        rw [hlaunch] at hperform
        cases outcome with
        | error error =>
            cases hperform
            exact .refused hmode hlaunch
        | ok engine => cases hperform

/-! ## A host with an answering server -/

/-- A network that leaves ports as they are, with a server that tells every
client at once where it is seen. -/
def answering : Surroundings Unit where
  bindFault? := fun _ _ _ => none
  freePort := fun count => UInt16.ofNat (40000 + count)
  transaction := fun _ => Vector.replicate 12 7
  token := fun _ => Vector.replicate 16 7
  addresses := fun _ => .ok []
  route := fun _ => .ok .loopback
  deliver := fun _ _ _ => .ok ([], ())
  connect := fun _ now source _ => (.completed now source, ())
  converse := fun _ now source _ _ =>
    let answer : Message :=
      ⟨Message.bindingResponse, .ofFresh (Vector.replicate 12 7),
        [.ofXorMapped source]⟩
    (⟨[(now, answer.encode)], none⟩, ())
  visits := fun _ _ _ _ _ => ([], ())

/-- A host there, at an instant, that has opened and drawn so much. -/
def answeringHost (opened drawn : Nat) (now : Instant) : Host Unit :=
  { Host.start answering () with now := now, opened := opened, drawn := drawn }

/-- Forwards from a port of this host. -/
def fromPort (port : UInt16) : Supervision where
  origin := ⟨.loopback, port⟩
  target := some ⟨.loopback, 25565⟩
  lookup := ⟨.tcp, "198.51.100.1:3478", {}⟩
  provider := .noDns
  name := ⟨"_minecraft._tcp.", "", ""⟩

theorem run_lookUp_givenPort :
    (fromPort 50000).lookUp.run (answeringHost 2 0 0) =
      (.ok ⟨.loopback, 50000⟩, answeringHost 2 1 0) := by
  with_unfolding_all rfl

theorem run_lookUp_anyPort :
    (fromPort 0).lookUp.run (answeringHost 2 0 0) =
      (.ok ⟨.loopback, 40002⟩, answeringHost 3 1 0) := by
  with_unfolding_all rfl

def inUse : SystemError := .numbered .other "Address already in use" 98

/-- A network whose server takes a second to answer.  Meanwhile another program
has bound the port. -/
def contested : Surroundings Unit :=
  { answering with
    bindFault? := fun _ now _ => if now ≤ 0 then none else some inUse
    converse := fun _ now source target sent =>
      answering.converse () (now + Duration.seconds 1) source target sent }

def contestedHost (drawn : Nat) (now : Instant) : Host Unit :=
  { Host.start contested () with now := now, drawn := drawn }

theorem run_lookUp_contested :
    (fromPort 50000).lookUp.run (contestedHost 0 0) =
      (.ok ⟨.loopback, 50000⟩, contestedHost 1 (Duration.seconds 1)) := by
  with_unfolding_all rfl

theorem run_launch_contested :
    ((fromPort 50000).launch ⟨.loopback, 50000⟩).run
        (contestedHost 1 (Duration.seconds 1)) =
      (.error (.bind ⟨.loopback, 50000⟩ inUse),
        contestedHost 1 (Duration.seconds 1)) := by
  with_unfolding_all rfl

end Supervision

end Pinhole
