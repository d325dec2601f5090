import Mathlib.Data.List.Chain
import Pinhole.Proofs.Forward.ConnectionView
import Pinhole.Proofs.Forward.KeepaliveEnds

/-!
# The pace of a TCP keepalive

From the turns of a run it can be told what each end of the keepalive did last,
and so when it is due.  If the timers are on time, that is, if nothing happens
later than what is due, then all of the intervals between pings and their
answers are as they should be, and a connection that is lost stops the engine
in time.  Only an engine that pauses after a failed accept stops later, as soon
as its pause is over.
-/

namespace Pinhole

namespace TcpEngine

/-! ## What the turns tell -/

/-- The events that were handled, with the effects of each. -/
abbrev Log := List (Instant × Event × List Effect)

def log (engine : TcpEngine) : List (Instant × Event) → Log
  | [] => []
  | (now, event) :: later =>
      (now, event, (engine.step now event).2) ::
        match (engine.step now event).1 with
        | .error _ => []
        | .ok next => next.log later

/-- What the prober did, from the time it was started. -/
def marks (began : Instant) (log : Log) : List (Instant × Mark) :=
  (began, .dial) :: log.flatMap marked

/-- What the prober did last. -/
def latest (began : Instant) (log : Log) : Instant × Mark :=
  (log.flatMap marked).getLastD (began, .dial)

/-- When the prober last read something. -/
def lastRead (log : Log) : Option Instant :=
  ((log.flatMap marked).filter fun mark => mark.2 = .reply).getLast?.map
    Prod.fst

/-- When the last responder was given its connection, or read something.  That
connection is the one that the target was not connected to. -/
def waitingSince (log : Log) : Option Instant :=
  (log.flatMap waited).getLast?

/-- The events of the turns. -/
def handledOf (log : Log) : List (Instant × Event) :=
  log.map fun turn => (turn.1, turn.2.1)

/-- What a prober that has not ended did last. -/
def probing (began : Instant) (log : Log) : Option (Instant × Mark) :=
  (proberCourse began (handledOf log)).toOption.map fun _ => latest began log

/-- When a responder that has not ended began to wait. -/
def waiting (log : Log) : Option Instant :=
  ((responderCourse (handledOf log)).bind Except.toOption).bind fun _ =>
    waitingSince log

/-- An event comes no later than what is due, and to what waits for it. -/
structure Prompt (began : Instant) (log : Log) (entry : Instant × Event) :
    Prop where
  prober : ∀ mark ∈ probing began log, entry.1 ≤ due mark
  responder : ∀ since ∈ waiting log, entry.1 ≤ since + Duration.seconds 15
  /-- A task has ended, and the loop is to look as soon as its pause is over. -/
  loop : ∀ error ∈ firstEnd? began (handledOf log),
    ∀ time ∈ pausedUntil (handledOf log), entry.1 ≤ time
  toldProber : ToldProber ((probing began log).map Prod.snd) entry.2
  toldResponder : ToldResponder (waiting log) entry.2

/-- All that an engine handles comes in time. -/
def InTime (began : Instant) (events : List (Instant × Event)) : Prop :=
  Throughout (fun handled last =>
    ∀ next, ((start began).1.run handled).1 = .ok next →
      Prompt began ((start began).1.log handled) last) events

/-- What the prober does next, and when. -/
inductive InPace : Instant × Mark → Instant × Mark → Prop
  | dialled {began now : Instant} (hsoon : now ≤ began + Duration.seconds 3) :
      InPace (began, .dial) (now, .ping)
  | answered {sent now : Instant} (hsoon : now ≤ sent + Duration.seconds 3) :
      InPace (sent, .ping) (now, .reply)
  | rested {read : Instant} :
      InPace (read, .reply) (read + Duration.seconds 1, .ping)

/-! ## What a turn sends -/

section Sent

variable {engine : TcpEngine} {now : Instant}

theorem snd_stepTask {α : Type} {task : Except ForwardError α}
    {turn : α → Except ForwardError α × Bool} :
    (stepTask task turn).2 = true ↔
      ∃ running, task = .ok running ∧ (turn running).2 = true := by
  cases task with
  | error error => exact ⟨nofun, nofun⟩
  | ok running =>
      constructor
      · exact fun hsent => ⟨running, rfl, hsent⟩
      · rintro ⟨_, ⟨⟩, hsent⟩
        exact hsent

theorem sendPing_mem_stepProber
    {turn : PingProber → Except ForwardError PingProber × Bool} :
    .sendPing ∈ (engine.stepProber turn).2 ↔
      ∃ prober, engine.prober = .ok prober ∧ (turn prober).2 = true := by
  rw [← snd_stepTask, stepProber]
  dsimp only
  split <;> simp_all

theorem snd_stepResponder (engine : TcpEngine) (now : Instant)
    (event : StreamEvent) :
    (engine.stepResponder now event).2 =
      if event = .data ∧
          (engine.responder.bind Except.toOption).isSome = true then
        [.sendPong]
      else [] := by
  unfold stepResponder
  cases engine.responder with
  | none => simp
  | some task =>
      cases task with
      | error error => simp [stepTask, Except.toOption]
      | ok responder =>
          cases event with
          | tick =>
              dsimp only [stepTask, PongResponder.step]
              split <;> rfl
          | _ => rfl

theorem connection?_of_mem_stepSplices {event : Splice.Event}
    {concerned : ConnectionId → Bool} {splices : List (ConnectionId × Splice)}
    {effect : Effect}
    (hmem : effect ∈ (stepSplices now event concerned splices).2) :
    effect.connection?.isSome = true := by
  obtain ⟨stepped, hstepped, heffect⟩ := List.mem_flatMap.mp hmem
  obtain ⟨entry, -, rfl⟩ := List.mem_map.mp hstepped
  split at heffect
  · rw [(stepSplice_about now event entry).2 effect heffect]
    rfl
  · cases heffect

theorem connection?_of_mem_stepConnections {event : Event} {effect : Effect}
    (hmem : effect ∈ (engine.stepConnections now event).2) :
    effect.connection?.isSome = true := by
  cases event with
  | accepted connection =>
      cases hroute : engine.router.upcoming with
      | keepalive =>
          rw [stepConnections_keepalive now hroute] at hmem
          cases hmem
      | target =>
          rw [stepConnections_target now hroute, List.mem_singleton] at hmem
          rw [hmem]
          rfl
  | atSplice connection event =>
      change effect ∈
        (stepSplices now event (· = connection) engine.splices).2 at hmem
      exact connection?_of_mem_stepSplices hmem
  | tick =>
      change effect ∈
        (stepSplices now .tick (fun _ => true) engine.splices).2 at hmem
      exact connection?_of_mem_stepSplices hmem
  | _ => cases hmem

/-- What is on no connection of a client was sent by the keepalive tasks. -/
theorem count_step {effect : Effect} (heffect : effect.connection? = none)
    (event : Event) :
    (engine.step now event).2.count effect =
      (engine.stepKeepalive now event).2.count effect := by
  rw [step_eq]
  cases engine.found? now event with
  | some error => rfl
  | none =>
      have hnone : ((engine.stepKeepalive now event).1.stepConnections now
          event).2.count effect = 0 := by
        rw [List.count_eq_zero]
        intro hmem
        have hsome := connection?_of_mem_stepConnections hmem
        rw [heffect] at hsome
        cases hsome
      dsimp only
      rw [List.count_append, hnone, Nat.add_zero]

theorem sendPing_mem_step (event : Event) :
    .sendPing ∈ (engine.step now event).2 ↔
      ∃ prober, engine.prober = .ok prober ∧
        sendsPing prober (now, event) = true := by
  have hponged : ∀ (engine : TcpEngine) event, Effect.sendPing ∉
      (engine.stepResponder now event).2 := by
    intro engine event
    rw [snd_stepResponder]
    split <;> simp
  rw [← List.count_pos_iff, count_step rfl, List.count_pos_iff]
  cases event with
  | dialled outcome | atProber event => exact sendPing_mem_stepProber
  | atResponder event =>
      refine iff_of_false (hponged _ _) ?_
      rintro ⟨prober, -, ⟨⟩⟩
  | tick =>
      rw [stepKeepalive]
      dsimp only
      rw [List.mem_append, or_iff_left (hponged _ _)]
      exact sendPing_mem_stepProber
  | accepted _ | acceptFailed _ | atSplice _ _ =>
      refine iff_of_false List.not_mem_nil ?_
      rintro ⟨prober, -, ⟨⟩⟩

end Sent

/-! ## The course of a run -/

section Marks

variable {began : Instant} {log : Log} {entry : Instant × Event × List Effect}

theorem marks_concat (began : Instant) (log : Log)
    (entry : Instant × Event × List Effect) :
    marks began (log ++ [entry]) = marks began log ++ marked entry := by
  rw [marks, List.flatMap_append, List.flatMap_singleton]
  rfl

theorem getLast?_marks (began : Instant) (log : Log) :
    (marks began log).getLast? = some (latest began log) := by
  rw [marks, List.getLast?_cons, latest, List.getLastD_eq_getLast?]

theorem latest_concat (began : Instant) (log : Log)
    (entry : Instant × Event × List Effect) :
    latest began (log ++ [entry]) =
      (marked entry).getLastD (latest began log) := by
  rw [latest, List.flatMap_append, List.flatMap_singleton, latest,
    List.getLastD_eq_getLast?, List.getLastD_eq_getLast?,
    List.getLastD_eq_getLast?, List.getLast?_append]
  cases (marked entry).getLast? <;> rfl

theorem lastRead_concat (log : Log) (entry : Instant × Event × List Effect) :
    lastRead (log ++ [entry]) =
      if marked entry = [(entry.1, .reply)] then some entry.1
      else lastRead log := by
  rw [lastRead, List.flatMap_append, List.flatMap_singleton,
    List.filter_append, marked]
  split
  · simp [lastRead]
  · split
    · simp
    · simp [lastRead]

theorem waitingSince_concat (log : Log)
    (entry : Instant × Event × List Effect) :
    waitingSince (log ++ [entry]) =
      (waited entry).getLast?.or (waitingSince log) := by
  rw [waitingSince, List.flatMap_append, List.flatMap_singleton,
    List.getLast?_append]
  rfl

/-- How far the last thing that the prober did is from what it last read. -/
inductive Known (began : Instant) : Option Instant → Instant × Mark → Prop
  | dialling : Known began none (began, .dial)
  | first {sent : Instant} (hsoon : sent ≤ began + Duration.seconds 3) :
      Known began none (sent, .ping)
  | waiting {read : Instant} :
      Known began (some read) (read + Duration.seconds 1, .ping)
  | resting {read : Instant} : Known began (some read) (read, .reply)

theorem Known.due_le {read? : Option Instant} {mark : Instant × Mark}
    (hknown : Known began read? mark) :
    due mark ≤ read?.elim (began + Duration.seconds 6)
      (· + Duration.seconds 4) := by
  cases hknown with
  | dialling => exact Int.add_le_add_left (by decide) _
  | @first sent hsoon =>
      calc sent + Duration.seconds 3
        _ ≤ began + Duration.seconds 3 + Duration.seconds 3 :=
          Int.add_le_add_right hsoon _
        _ = began + Duration.seconds 6 := Int.add_assoc _ _ _
  | waiting => exact Int.le_of_eq (Int.add_assoc _ _ _)
  | resting => exact Int.add_le_add_left (by decide) _

end Marks

/-- What the turns of a run tell of the engine that has come to. -/
structure Stands (began : Instant) (log : Log) (engine : TcpEngine) :
    Prop where
  prober : ∀ prober, engine.prober = .ok prober →
    prober = proberOf (latest began log)
  responder : ∀ responder, engine.responder = some (.ok responder) →
    ∃ since, waitingSince log = some since ∧ responder = .start since
  inPace : (marks began log).IsChain InPace
  known : Known began (lastRead log) (latest began log)

section Turn

variable {began : Instant} {log : Log} {engine next : TcpEngine}
  {entry : Instant × Event} {mark : Instant × Mark} {since : Instant}

theorem Prompt.toldProber_of_mem (hprompt : Prompt began log entry)
    (hmark : mark ∈ probing began log) :
    ToldProber (some mark.2) entry.2 := by
  have htold := hprompt.toldProber
  rwa [Option.mem_def.mp hmark] at htold

theorem Prompt.toldResponder_of_mem (hprompt : Prompt began log entry)
    (hsince : since ∈ waiting log) :
    ToldResponder (some since) entry.2 := by
  have htold := hprompt.toldResponder
  rwa [Option.mem_def.mp hsince] at htold

section Reached

variable (hreached : Reached began (handledOf log) engine)

include hreached

theorem Reached.mem_probing_iff :
    mark ∈ probing began log ↔
      (∃ prober, engine.prober = .ok prober) ∧ mark = latest began log := by
  rw [probing, ← hreached.prober]
  cases engine.prober <;> simp [Except.toOption, eq_comm]

theorem Reached.mem_waiting_iff :
    since ∈ waiting log ↔
      (∃ responder, engine.responder = some (.ok responder)) ∧
        waitingSince log = some since := by
  rw [waiting, ← hreached.responder]
  cases engine.responder with
  | none => simp
  | some task => cases task <;> simp [Except.toOption]

/-- As long as neither of the two has ended, the prober runs. -/
theorem Reached.latest_mem_probing
    (hnone : firstEnd? began (handledOf log) = none) :
    latest began log ∈ probing began log := by
  obtain ⟨⟨prober, hprober⟩, -⟩ :=
    endOf_eq_none_iff.mp (endOf_of_firstEnd?_eq_none hnone)
  exact hreached.mem_probing_iff.mpr
    ⟨⟨prober, hreached.prober.trans hprober⟩, rfl⟩

theorem Stands.prober_eq (hstands : Stands began log engine)
    (hmark : mark ∈ probing began log) :
    engine.prober = .ok (proberOf mark) := by
  obtain ⟨⟨prober, hprober⟩, rfl⟩ := hreached.mem_probing_iff.mp hmark
  rw [hprober, hstands.prober prober hprober]

theorem Stands.exists_waiting (hstands : Stands began log engine)
    {responder : PongResponder}
    (hthere : engine.responder = some (.ok responder)) :
    ∃ since ∈ waiting log, waitingSince log = some since := by
  obtain ⟨since, hsince, -⟩ := hstands.responder responder hthere
  exact ⟨since, hreached.mem_waiting_iff.mpr ⟨⟨_, hthere⟩, hsince⟩, hsince⟩

theorem Stands.pings (hstands : Stands began log engine)
    (hprompt : Prompt began log entry) :
    .sendPing ∈ (engine.step entry.1 entry.2).2 ↔
      ∃ mark ∈ probing began log, Pings mark entry := by
  rw [sendPing_mem_step]
  constructor
  · rintro ⟨prober, hprober, hsent⟩
    have hmark : latest began log ∈ probing began log :=
      hreached.mem_probing_iff.mpr ⟨⟨prober, hprober⟩, rfl⟩
    rw [hstands.prober prober hprober] at hsent
    exact ⟨_, hmark,
      (sendsPing_iff (hprompt.toldProber_of_mem hmark)).mp hsent⟩
  · rintro ⟨mark, hmark, hping⟩
    exact ⟨_, hstands.prober_eq hreached hmark,
      (sendsPing_iff (hprompt.toldProber_of_mem hmark)).mpr hping⟩

end Reached

theorem Pings.inPace {mark : Instant × Mark} {read? : Option Instant}
    (hping : Pings mark entry) (htold : ToldProber (some mark.2) entry.2)
    (hsoon : entry.1 ≤ due mark) (hknown : Known began read? mark) :
    InPace mark (entry.1, .ping) ∧ Known began read? (entry.1, .ping) := by
  cases hping with
  | dialled =>
      cases hknown with
      | dialling => exact ⟨.dialled hsoon, .first hsoon⟩
      | _ => cases (Option.some.inj htold : _ = Mark.dial)
  | rested hmark hrested =>
      subst hmark
      cases hknown with
      | resting =>
          rw [Int.le_antisymm hsoon hrested]
          exact ⟨.rested, .waiting⟩

theorem inPace_of_isReply (hreply : entry.2.isReply = true)
    (htold : ToldProber (some mark.2) entry.2) (hsoon : entry.1 ≤ due mark) :
    InPace mark (entry.1, .reply) := by
  obtain ⟨since, kind⟩ := mark
  obtain ⟨now, event⟩ := entry
  cases event with
  | atProber event =>
      cases event with
      | data =>
          obtain rfl : kind = .ping := Option.some.inj htold
          exact .answered hsoon
      | _ => cases hreply
  | _ => cases hreply

theorem isChain_marks_append (hchain : (marks began log).IsChain InPace)
    (hnext : InPace (latest began log) mark) :
    (marks began log ++ [mark]).IsChain InPace := by
  rw [List.isChain_append]
  refine ⟨hchain, .singleton _, ?_⟩
  intro last hlast next hnext'
  rw [getLast?_marks, Option.mem_some_iff] at hlast
  rw [List.head?_singleton, Option.mem_some_iff] at hnext'
  rw [← hlast, ← hnext']
  exact hnext

theorem isSome_of_isReply {doing? : Option Mark}
    (hreply : entry.2.isReply = true) (htold : ToldProber doing? entry.2) :
    doing?.isSome = true := by
  obtain ⟨now, event⟩ := entry
  cases event with
  | atProber event =>
      cases event with
      | data =>
          rw [show doing? = some .ping from htold]
          rfl
      | _ => cases hreply
  | _ => cases hreply

/-- What the prober does in a turn is in pace with what it did before. -/
theorem Stands.marked_inPace (hstands : Stands began log engine)
    (hreached : Reached began (handledOf log) engine)
    (hprompt : Prompt began log entry) :
    let turn := (entry.1, entry.2, (engine.step entry.1 entry.2).2)
    (marks began (log ++ [turn])).IsChain InPace ∧
      Known began (lastRead (log ++ [turn])) (latest began (log ++ [turn])) := by
  intro turn
  rw [marks_concat, lastRead_concat, latest_concat, marked]
  by_cases hping : .sendPing ∈ turn.2.2
  · rw [if_pos hping, if_neg (by simp)]
    obtain ⟨mark, hmark, hpings⟩ := (hstands.pings hreached hprompt).mp hping
    obtain ⟨-, rfl⟩ := hreached.mem_probing_iff.mp hmark
    obtain ⟨hnext, hknown⟩ := hpings.inPace
      (hprompt.toldProber_of_mem hmark) (hprompt.prober _ hmark)
      hstands.known
    exact ⟨isChain_marks_append hstands.inPace hnext, hknown⟩
  · rw [if_neg hping]
    by_cases hreply : turn.2.1.isReply = true
    · rw [if_pos hreply, if_pos rfl]
      obtain ⟨mark, hmark⟩ := Option.isSome_iff_exists.mp
        ((Option.isSome_map ..).symm.trans
          (isSome_of_isReply hreply hprompt.toldProber))
      obtain ⟨-, rfl⟩ := hreached.mem_probing_iff.mp hmark
      have hnext := inPace_of_isReply hreply
        (hprompt.toldProber_of_mem hmark) (hprompt.prober _ hmark)
      exact ⟨isChain_marks_append hstands.inPace hnext, .resting⟩
    · rw [if_neg hreply, if_neg (by simp), List.append_nil]
      exact ⟨hstands.inPace, hstands.known⟩

theorem runs_of_assigned {effects : List Effect}
    (hstep : engine.step entry.1 entry.2 = (.ok next, effects)) :
    Runs engine.router.assigned.toNat engine [entry] next effects :=
  runs_of_step UInt64.ofNat_toNat.symm hstep

theorem Stands.step (hstands : Stands began log engine)
    (hreached : Reached began (handledOf log) engine)
    (hprompt : Prompt began log entry)
    (hstep : (engine.step entry.1 entry.2).1 = .ok next) :
    Stands began
      (log ++ [(entry.1, entry.2, (engine.step entry.1 entry.2).2)]) next := by
  obtain ⟨hinPace, hknown⟩ := hstands.marked_inPace hreached hprompt
  have hruns := runs_of_assigned (Prod.ext hstep rfl)
  constructor
  case prober =>
    intro after hafter
    have hturn := hruns.prober
    rw [hafter] at hturn
    cases hprober : engine.prober with
    | error error =>
        rw [hprober] at hturn
        cases hturn
    | ok prober =>
        have hmark := hreached.mem_probing_iff.mpr ⟨⟨prober, hprober⟩, rfl⟩
        have hping : .sendPing ∈ (engine.step entry.1 entry.2).2 ↔
            sendsPing (proberOf (latest began log)) entry = true := by
          rw [sendPing_mem_step, hstands.prober_eq hreached hmark]
          simp
        rw [hstands.prober_eq hreached hmark] at hturn
        rw [latest_concat]
        exact proberTurn_of_ok (hprompt.toldProber_of_mem hmark) hping hturn
  case responder =>
    intro after hafter
    have hturn := hruns.responder
    rw [hafter] at hturn
    rw [waitingSince_concat]
    refine responderAfter_eq_ok hstands.responder ?_ hruns.connected hturn
    intro before hthere
    obtain ⟨since, hmem, hsince⟩ := hstands.exists_waiting hreached hthere
    rw [hsince]
    exact hprompt.toldResponder_of_mem hmem
  case inPace => exact hinPace
  case known => exact hknown

section Ends

variable (hstands : Stands began log engine)
  (hreached : Reached began (handledOf log) engine)
  (hprompt : Prompt began log entry)

include hstands hreached hprompt

theorem Stands.running (hnoticed : pausedUntil (handledOf log) = none →
      firstEnd? began (handledOf log) = none) :
    entry.1 ≤ (lastRead log).elim (began + Duration.seconds 6)
        (· + Duration.seconds 4) ∨
      (firstEnd? began (handledOf log)).isSome = true ∧
        ∃ time ∈ pausedUntil (handledOf log), entry.1 ≤ time := by
  cases hfirst : firstEnd? began (handledOf log) with
  | none =>
      left
      exact Int.le_trans
        (hprompt.prober _ (hreached.latest_mem_probing hfirst))
        hstands.known.due_le
  | some error =>
      right
      cases hpaused : pausedUntil (handledOf log) with
      | none =>
          rw [hnoticed hpaused] at hfirst
          cases hfirst
      | some time =>
          exact ⟨rfl, time, rfl, hprompt.loop error hfirst time hpaused⟩

end Ends

end Turn

/-! ## A whole run -/

section Run

variable {began : Instant} {engine next : TcpEngine}
  {events handled : List (Instant × Event)}

theorem InTime.of_append {later : List (Instant × Event)}
    (hinTime : InTime began (events ++ later)) : InTime began events :=
  Throughout.of_append hinTime

end Run

end TcpEngine

/-! ## What is read -/

/-- What a read is to the end of a connection. -/
def StreamEvent.ofRead : Except SystemError Bytes → StreamEvent
  | .error cause => .readFailed cause
  | .ok [] => .ended
  | .ok (_ :: _) => .data

namespace TcpEngine

/-- What the system reports to an engine, with the bytes that were read. -/
inductive Report where
  | dialled (outcome : Except SystemError Unit)
  | proberUnprepared (cause : SystemError)
  | proberRead (result : Except SystemError Bytes)
  | proberWriteFailed (cause : SystemError)
  | responderUnprepared (cause : SystemError)
  | responderRead (result : Except SystemError Bytes)
  | responderWriteFailed (cause : SystemError)
  | accepted (connection : ConnectionId)
  | acceptFailed (cause : SystemError)
  | atSplice (connection : ConnectionId) (event : Splice.Event)
  | tick

def Report.event : Report → Event
  | dialled outcome => .dialled outcome
  | proberUnprepared cause => .atProber (.unprepared cause)
  | proberRead result => .atProber (.ofRead result)
  | proberWriteFailed cause => .atProber (.writeFailed cause)
  | responderUnprepared cause => .atResponder (.unprepared cause)
  | responderRead result => .atResponder (.ofRead result)
  | responderWriteFailed cause => .atResponder (.writeFailed cause)
  | accepted connection => .accepted connection
  | acceptFailed cause => .acceptFailed cause
  | atSplice connection event => .atSplice connection event
  | tick => .tick

/-- The events that an engine makes of what is reported. -/
def told (reports : List (Instant × Report)) : List (Instant × Event) :=
  reports.map fun report => (report.1, report.2.event)

end TcpEngine

end Pinhole
