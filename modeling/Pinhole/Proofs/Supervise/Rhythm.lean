import Pinhole.Proofs.Supervise.Hosting

/-!
# The rhythm of a supervision

A supervision goes round: a look-up, then either a pause of ten seconds or a
publication, an engine and a pause of five.  The log says so entry by entry.
From this order alone it follows that there is never more than one engine and
that two look-ups are five seconds apart at least, whatever becomes of the
publications, which are answered and repeated at any time in between.
-/

namespace Pinhole

namespace Supervision

variable {σ : Type}

def Mark.isLookUp : Mark → Bool
  | lookUp => true
  | lookedUp _ | published .. | launched .. | ended _ => false

def Mark.isLaunched : Mark → Bool
  | launched .. => true
  | lookUp | lookedUp _ | published .. | ended _ => false

def Mark.isEnded : Mark → Bool
  | ended _ => true
  | lookUp | lookedUp _ | published .. | launched .. => false

/-- The instants at which look-ups began. -/
def lookUps (log : Log σ) : List Instant :=
  (log.filter fun entry => entry.2.isLookUp).map fun entry => entry.1.now

/-- How many engines were started, or were tried to be. -/
def launches (log : Log σ) : Nat :=
  log.countP fun entry => entry.2.isLaunched

/-- How many engines came to their end. -/
def ends (log : Log σ) : Nat :=
  log.countP fun entry => entry.2.isEnded

def Apart (first second : Instant) : Prop :=
  first + Duration.seconds 5 ≤ second

/-- A supervision can come to a further look-up. -/
def GoesOn (supervision : Supervision) (first : Host σ) (watch : Watch σ) :
    Prop :=
  ∃ later, supervision.Course first later ∧ watch.log <+: later.log ∧
    (lookUps watch.log).length < (lookUps later.log).length

/-- What is known of a supervision at any time. -/
structure Rhythm (supervision : Supervision) (first : Host σ)
    (watch : Watch σ) : Prop extends supervision.Recorded first watch where
  engines : ∀ seen, seen <+: watch.log →
    ends seen ≤ launches seen ∧ launches seen ≤ ends seen + 1
  transport : ∀ host mapped listener engine,
    (host, .launched mapped (.ok (listener, engine))) ∈ watch.log →
    engine.transport = supervision.lookup.transport
  apart : (lookUps watch.log).IsChain Apart
  goesOn : supervision.GoesOn first watch

section Next

variable {supervision : Supervision} {before entry : Host σ × Mark}
  {log : Log σ}

/-- Only what was launched ends, and it ends next. -/
theorem Next.ends_singleton (hnext : supervision.Next before entry) :
    ends [entry] = launches [before] := by
  cases hnext <;> rfl

theorem Next.now_le (hnext : supervision.Next before entry) :
    if entry.2.isLookUp then Apart before.1.now entry.1.now
    else before.1.now ≤ entry.1.now := by
  cases hnext with
  | lookedUp hrun hlater => exact hlater
  | retried hpause =>
      refine Int.le_trans ?_ (Int.le_of_eq hpause.symm)
      have hlonger : (Duration.seconds 5 : Int) ≤ Duration.seconds 10 := by
        decide
      exact Int.add_le_add_left hlonger _
  | published => exact Int.le_refl _
  | launched => exact Int.le_refl _
  | refused hrun hlater => exact hlater
  | stopped hlater => exact hlater
  | restarted hpause => exact Int.le_of_eq hpause.symm

theorem ends_cons (entry : Host σ × Mark) (log : Log σ) :
    ends (entry :: log) = ends [entry] + ends log := by
  rw [ends, ← List.singleton_append, List.countP_append]
  rfl

theorem launches_cons (entry : Host σ × Mark) (log : Log σ) :
    launches (entry :: log) = launches [entry] + launches log := by
  rw [launches, ← List.singleton_append, List.countP_append]
  rfl

theorem lookUps_cons (entry : Host σ × Mark) (log : Log σ) :
    lookUps (entry :: log) =
      if entry.2.isLookUp then entry.1.now :: lookUps log
      else lookUps log := by
  rw [lookUps, List.filter_cons]
  split <;> rfl

theorem engines_of_isChain
    (hchain : (before :: log).IsChain supervision.Next) :
    ends log ≤ launches log + launches [before] ∧
      launches log + launches [before] ≤ ends log + 1 := by
  induction log generalizing before with
  | nil =>
      have hone : launches [before] ≤ 1 := List.countP_le_length
      exact ⟨Nat.zero_le _, by simpa [launches, ends] using hone⟩
  | cons entry log ih =>
      obtain ⟨hnext, hrest⟩ := List.isChain_cons_cons.mp hchain
      have hlater := ih hrest
      have hended := hnext.ends_singleton
      rw [ends_cons, launches_cons]
      omega

theorem isChain_lookUps
    (hchain : (before :: log).IsChain supervision.Next) :
    (before.1.now :: lookUps log).IsChain Apart := by
  induction log generalizing before with
  | nil => exact .singleton _
  | cons entry log ih =>
      obtain ⟨hnext, hrest⟩ := List.isChain_cons_cons.mp hchain
      have hlater := ih hrest
      have hnow := hnext.now_le
      rw [lookUps_cons]
      split at hnow
      · rename_i hlookUp
        rw [if_pos hlookUp]
        exact .cons_cons hnow hlater
      · rename_i hother
        rw [if_neg hother]
        cases hfirst : lookUps log with
        | nil => exact .singleton _
        | cons first others =>
            rw [hfirst] at hlater
            obtain ⟨hapart, hothers⟩ := List.isChain_cons_cons.mp hlater
            refine .cons_cons ?_ hothers
            exact Int.le_trans (Int.add_le_add_right hnow _) hapart

end Next

section Recorded

variable {supervision : Supervision} {first : Host σ} {watch : Watch σ}

theorem transport_startOn {transport : Transport} {mapped : Endpoint}
    {host : Host σ} {engine : Engine}
    (hstart : ((Engine.startOn transport mapped).run host).1 = .ok engine) :
    engine.transport = transport := by
  cases transport with
  | tcp =>
      change Except.map _ ((TcpEngine.startOn mapped).run host).1 = _
        at hstart
      cases houtcome : ((TcpEngine.startOn mapped).run host).1 with
      | error error =>
          rw [houtcome] at hstart
          cases hstart
      | ok started =>
          rw [houtcome] at hstart
          cases hstart
          rfl
  | udp =>
      change Except.map _ ((UdpEngine.startOn mapped).run host).1 = _
        at hstart
      cases houtcome : ((UdpEngine.startOn mapped).run host).1 with
      | error error =>
          rw [houtcome] at hstart
          cases hstart
      | ok started =>
          rw [houtcome] at hstart
          cases hstart
          rfl

theorem Recorded.engines (hrecorded : supervision.Recorded first watch)
    {seen : Log σ} (hseen : seen <+: watch.log) :
    ends seen ≤ launches seen ∧ launches seen ≤ ends seen + 1 := by
  have hchain := hrecorded.next.prefix hseen
  cases seen with
  | nil => exact ⟨Nat.le_refl _, Nat.zero_le _⟩
  | cons entry seen =>
      obtain ⟨later, hlog⟩ := hseen
      have hbegins := hrecorded.begins
      rw [← hlog] at hbegins
      cases hbegins
      have hengines := engines_of_isChain hchain
      have hnone : ends [(first, Mark.lookUp)] = 0 ∧
          launches [(first, Mark.lookUp)] = 0 := ⟨rfl, rfl⟩
      rw [ends_cons, launches_cons]
      omega

theorem Recorded.transport (hrecorded : supervision.Recorded first watch)
    {host : Host σ} {mapped listener : Endpoint} {engine : Engine}
    (hentry : (host, .launched mapped (.ok (listener, engine))) ∈ watch.log) :
    engine.transport = supervision.lookup.transport := by
  obtain ⟨front, later, hlog⟩ := List.append_of_mem hentry
  obtain ⟨_, _, _, _, _, hlaunch⟩ := hrecorded.round hlog
  obtain ⟨_, _, hstart⟩ := run_launch_eq_ok hlaunch
  exact transport_startOn hstart

/-! ## Going on -/

theorem lookUps_append (log later : Log σ) :
    lookUps (log ++ later) = lookUps log ++ lookUps later := by
  rw [lookUps, List.filter_append, List.map_append]
  rfl

theorem GoesOn.of_tell {host : Host σ} {event : Supervisor.Event}
    (hgoes : supervision.GoesOn first (supervision.tell watch host event)) :
    supervision.GoesOn first watch := by
  obtain ⟨later, hcourse, ⟨rest, hlog⟩, hmore⟩ := hgoes
  have htold : watch.log <+: (supervision.tell watch host event).log :=
    List.prefix_append _ _
  refine ⟨later, hcourse, htold.trans ⟨rest, hlog⟩, ?_⟩
  obtain ⟨marks, hmarks⟩ := htold
  rw [← hmarks, lookUps_append, List.length_append] at hmore
  omega

theorem goesOn_of_pausing {wakeUp : Instant}
    (hcourse : supervision.Course first watch)
    (hmode : watch.supervisor.mode = .forward (.pausing wakeUp)) :
    supervision.GoesOn first watch := by
  obtain ⟨mode, _, hserves, _⟩ := hcourse.recorded.standing
  let host : Host σ := { watch.begun with now := wakeUp }
  have hmarks : supervision.turnMarks watch.supervisor host .tick =
      [.lookUp] :=
    turnMarks_tick hserves (stepMode_tick_of_due hmode (Int.le_refl _))
  have hnext : supervision.Course first (supervision.tell watch host .tick) :=
    hcourse.resumed hmode
  refine ⟨_, hnext, List.prefix_append _ _, ?_⟩
  rw [tell, hmarks, lookUps_append, List.length_append]
  exact Nat.lt_succ_self _

theorem goesOn_of_running {mapped : Endpoint}
    (hcourse : supervision.Course first watch)
    (hmode : watch.supervisor.mode = .forward (.running mapped)) :
    supervision.GoesOn first watch := by
  cases hrun : (supervision.launch mapped).run watch.begun with
  | mk outcome after =>
      cases outcome with
      | error error =>
          exact (goesOn_of_pausing (hcourse.refused hmode hrun)
            (mode_tell_engineEnded hmode _)).of_tell
      | ok engine =>
          let host : Host σ :=
            { after with now := max watch.since after.now }
          have hnext : supervision.Course first
              (supervision.tell watch host (.engineEnded (.ok ()))) :=
            hcourse.stopped hmode hrun (Int.le_max_left _ _)
              (Int.le_max_right _ _)
          exact (goesOn_of_pausing hnext
            (mode_tell_engineEnded hmode _)).of_tell

theorem goesOn_of_lookingUp (hcourse : supervision.Course first watch)
    (hmode : watch.supervisor.mode = .forward .lookingUp) :
    supervision.GoesOn first watch := by
  cases hrun : supervision.lookUp.run watch.begun with
  | mk outcome host =>
      have hnext := hcourse.lookedUp hmode hrun
      cases outcome with
      | error error =>
          exact (goesOn_of_pausing hnext
            (mode_tell_lookedUp hmode _)).of_tell
      | ok mapped =>
          exact (goesOn_of_running hnext
            (mode_tell_lookedUp hmode _)).of_tell

theorem Course.goesOn (hcourse : supervision.Course first watch) :
    supervision.GoesOn first watch := by
  obtain ⟨mode, _, hserves, _⟩ := hcourse.recorded.standing
  cases mode with
  | lookingUp => exact goesOn_of_lookingUp hcourse hserves.mode
  | running mapped => exact goesOn_of_running hcourse hserves.mode
  | pausing wakeUp => exact goesOn_of_pausing hcourse hserves.mode

/-- A supervision keeps its rhythm at any time, and never stops. -/
theorem Course.rhythm (hcourse : supervision.Course first watch) :
    supervision.Rhythm first watch where
  toRecorded := hcourse.recorded
  engines := fun _ hseen => hcourse.recorded.engines hseen
  transport := fun _ _ _ _ hentry => hcourse.recorded.transport hentry
  apart := by
    have hbegins := hcourse.recorded.begins
    have hchain := hcourse.recorded.next
    cases hlog : watch.log with
    | nil =>
        rw [hlog] at hbegins
        cases hbegins
    | cons entry log =>
        rw [hlog] at hbegins hchain
        cases hbegins
        rw [lookUps_cons]
        exact isChain_lookUps hchain
  goesOn := hcourse.goesOn

/-! ## An engine that cannot be started -/

/-- A look-up that succeeds, an engine that is refused although the look-up
could bind the same endpoint, and the look-up after the pause. -/
def refusedRound (supervision : Supervision) (watch : Watch σ)
    (site after : Host σ) (mapped : Endpoint) (error : ForwardError) :
    Watch σ :=
  let running := supervision.tell watch site (.lookedUp (.ok mapped))
  let ended := supervision.tell running after (.engineEnded (.error error))
  supervision.tell ended
    { after with now := after.now + ForwardMode.restartPause } .tick

theorem Course.refusedRound {site after : Host σ} {mapped : Endpoint}
    {error : ForwardError} (hcourse : supervision.Course first watch)
    (hmode : watch.supervisor.mode = .forward .lookingUp)
    (hrun : supervision.lookUp.run watch.begun = (.ok mapped, site))
    (hlaunch : (supervision.launch mapped).run site = (.error error, after)) :
    supervision.Course first
      (supervision.refusedRound watch site after mapped error) := by
  obtain ⟨mode, _, hserves, _⟩ := hcourse.recorded.standing
  cases hserves.mode.symm.trans hmode
  have hrunning : (supervision.tell watch site
      (.lookedUp (.ok mapped))).supervisor.mode =
        .forward (.running mapped) :=
    mode_tell_lookedUp hmode _
  have hbegun : (supervision.tell watch site
      (.lookedUp (.ok mapped))).begun = site := by
    rw [Supervision.tell, turnMarks_found hserves]
    rfl
  refine Course.resumed ((hcourse.lookedUp hmode hrun).refused hrunning ?_)
    (mode_tell_engineEnded hrunning _)
  rw [hbegun]
  exact hlaunch

end Recorded

/-- An engine that stops after two seconds, and the look-up after it. -/
def stoppedOnce : Watch Unit :=
  let running := (fromPort 50000).firstEngine (answeringHost 2 0 0)
    (answeringHost 2 1 0) ⟨.loopback, 50000⟩
  let ended := (fromPort 50000).tell running
    (answeringHost 2 1 (Duration.seconds 2)) (.engineEnded (.ok ()))
  (fromPort 50000).tell ended (answeringHost 2 1 (Duration.seconds 7)) .tick

theorem course_stoppedOnce :
    (fromPort 50000).Course (answeringHost 2 0 0) stoppedOnce := by
  have hrunning := course_firstEngine run_lookUp_givenPort
  refine Course.resumed
    (hrunning.stopped (mode_tell_lookedUp rfl _) rfl ?_ ?_) rfl
  · decide
  · decide

/-- An engine whose port was bound by another program since it was looked up. -/
def refusedOnce : Watch Unit :=
  (fromPort 50000).refusedRound ((fromPort 50000).start (contestedHost 0 0))
    (contestedHost 1 (Duration.seconds 1))
    (contestedHost 1 (Duration.seconds 1)) ⟨.loopback, 50000⟩
    (.bind ⟨.loopback, 50000⟩ inUse)

theorem course_refusedOnce :
    (fromPort 50000).Course (contestedHost 0 0) refusedOnce :=
  Course.start.refusedRound rfl run_lookUp_contested run_launch_contested

theorem rhythm_stoppedOnce :
    ((fromPort 50000).Course (answeringHost 2 0 0) stoppedOnce ∧
      (fromPort 50000).Rhythm (answeringHost 2 0 0) stoppedOnce ∧
      lookUps stoppedOnce.log = [0, Duration.seconds 7]) ∧
    (fromPort 50000).Course (contestedHost 0 0) refusedOnce ∧
      (fromPort 50000).Rhythm (contestedHost 0 0) refusedOnce ∧
      lookUps refusedOnce.log = [0, Duration.seconds 6] :=
  ⟨⟨course_stoppedOnce, course_stoppedOnce.rhythm, rfl⟩,
    course_refusedOnce, course_refusedOnce.rhythm, rfl⟩

end Supervision

end Pinhole
