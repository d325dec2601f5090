import Mathlib.Data.List.Chain
import Pinhole.Proofs.Forward.SessionHistory
import Pinhole.Proofs.Forward.Survival

/-!
# When idle sessions go

The sweeper looks half a minute after it last did, or at the first turn after
that.  A session that is idle for longer than the limit stays until then, so it
may be idle for almost a minute, and for as long again as the engine takes to
its next turn.

The time of the last activity that a session keeps is the instant of the last
turn that handled a datagram for it.  From this and from one bound that every
turn keeps, that the next sweep is due no later than a minute after the last
activity of any session, the window follows.
-/

namespace Pinhole

namespace UdpEngine

/-! ## The traffic of a source -/

/-- The source for whose session a datagram is handled, in either direction. -/
def Turn.served? (turn : Turn) : Option SocketAddress :=
  match turn.event with
  | .fromClient source _ _ =>
      if (turn.handled.sessions.get? source).isSome then some source else none
  | .fromSession socket _ => turn.before.sessions.owner? socket
  | .atResponder .. | .atProber _ | .readFailed | .tick => none

/-- When a datagram was last handled for a source. -/
def lastServed? (turns : List Turn) (source : SocketAddress) :
    Option Instant :=
  (turns.filter fun turn => turn.served? = some source).getLast?.map Turn.now

/-- The private sockets that were opened for a source. -/
def openingsFor (turns : List Turn) (source : SocketAddress) :
    List Assignment :=
  (openings turns).filter fun assignment => assignment.source = source

theorem lastServed?_concat (past : List Turn) (turn : Turn)
    (source : SocketAddress) :
    lastServed? (past ++ [turn]) source =
      if turn.served? = some source then some turn.now
      else lastServed? past source := by
  unfold lastServed?
  by_cases hserved : turn.served? = some source
  · rw [if_pos hserved, List.filter_append]
    simp [hserved]
  · rw [if_neg hserved, List.filter_append]
    simp [hserved]

theorem openingsFor_concat (past : List Turn) (turn : Turn)
    (source : SocketAddress) :
    openingsFor (past ++ [turn]) source =
      openingsFor past source ++
        turn.opened.filter fun assignment => assignment.source = source := by
  simp [openingsFor, openings]

/-- What handling an event comes to: the source that is served, the sessions
and what was opened. -/
inductive Serving (table : SessionTable) (now : Instant) :
    Option SocketAddress → SessionTable → List Assignment → Prop
  | nobody : Serving table now none table []
  | known {source session} (hsession : table.get? source = some session) :
      Serving table now (some source) (table.touch source now) []
  | opened {source socket} (hnone : table.get? source = none) :
      Serving table now (some source)
        ((table.insert source socket now).1.touch source now)
        [⟨socket, source, table.upcomingRoute⟩]

theorem Turn.serving (turn : Turn) :
    Serving turn.before.sessions turn.now turn.served? turn.handled.sessions
      turn.opened := by
  have hopened : turn.opened =
      (turn.before.handle turn.now turn.event).2.filterMap
        Effect.assignment? :=
    filterMap_step _ (fun _ => rfl) rfl _ _ _
  rw [hopened]
  unfold Turn.served? Turn.handled
  obtain ⟨engine, now, event⟩ := turn
  dsimp only
  cases event with
  | fromClient source payload opened =>
      cases hsession : engine.sessions.get? source with
      | some session =>
          have htouched := SessionTable.get?_touch_self hsession now
          simp only [handle, hsession, forward, htouched, Option.isSome_some,
            if_true]
          exact Serving.known hsession
      | none =>
          cases opened with
          | none =>
              simp only [handle, hsession, Option.isSome_none,
                Bool.false_eq_true, if_false]
              exact Serving.nobody
          | some socket =>
              have htouched := SessionTable.get?_touch_self
                (SessionTable.get?_insert_self engine.sessions source socket
                  now) now
              simp only [handle, hsession, forward, htouched,
                Option.isSome_some, if_true]
              exact Serving.opened hsession
  | fromSession socket payload =>
      cases howner : engine.sessions.owner? socket with
      | none =>
          simp only [handle, howner]
          exact Serving.nobody
      | some source =>
          obtain ⟨session, hsession, _⟩ := SessionTable.get?_of_owner? howner
          simp only [handle, howner]
          exact Serving.known hsession
  | atResponder sender payload =>
      simp only [handle]
      split <;> exact Serving.nobody
  | atProber payload =>
      simp only [handle]
      split <;> exact Serving.nobody
  | readFailed => exact Serving.nobody
  | tick => exact Serving.nobody

namespace Serving

variable {table after : SessionTable} {now : Instant}
  {served : Option SocketAddress} {opened : List Assignment}
  {source : SocketAddress}

theorem get?_of_ne (hserving : Serving table now served after opened)
    (hother : served ≠ some source) :
    after.get? source = table.get? source ∧
      opened.filter (fun assignment => assignment.source = source) = [] := by
  cases hserving with
  | nobody => exact ⟨rfl, rfl⟩
  | @known other session hsession =>
      have hne : source ≠ other := fun hsame => hother (by rw [hsame])
      exact ⟨table.get?_touch_of_ne hne now, rfl⟩
  | @opened other socket hnone =>
      have hne : source ≠ other := fun hsame => hother (by rw [hsame])
      refine ⟨?_, by simp [Ne.symm hne]⟩
      rw [SessionTable.get?_touch_of_ne _ hne,
        SessionTable.get?_insert_of_ne _ hne]

theorem get?_self (hserving : Serving table now (some source) after opened) :
    ∃ session, after.get? source = some session ∧
      session.lastActivity = now ∧
      ((table.get? source = none ∧
          opened.filter (fun assignment => assignment.source = source) =
            [⟨session.socket, source, session.route⟩]) ∨
        ∃ held, table.get? source = some held ∧
          session = { held with lastActivity := now } ∧ opened = []) := by
  cases hserving with
  | @known _ held hheld =>
      exact ⟨_, SessionTable.get?_touch_self hheld now, rfl,
        Or.inr ⟨held, hheld, rfl, rfl⟩⟩
  | @opened _ socket hnone =>
      have hinserted := table.get?_insert_self source socket now
      exact ⟨_, SessionTable.get?_touch_self hinserted now, rfl,
        Or.inl ⟨hnone, by simp⟩⟩

/-- A session that is there stays, on the same socket and route. -/
theorem get?_of_some (hserving : Serving table now served after opened)
    {session : Session} (hsession : table.get? source = some session) :
    ∃ active, after.get? source =
      some { session with lastActivity := active } := by
  by_cases hserved : served = some source
  · rw [hserved] at hserving
    obtain ⟨_, hafter, _, ⟨hnone, _⟩ | ⟨held, hheld, rfl, _⟩⟩ :=
      hserving.get?_self
    · rw [hnone] at hsession
      cases hsession
    · rw [hheld] at hsession
      cases hsession
      exact ⟨now, hafter⟩
  · exact ⟨session.lastActivity,
      (hserving.get?_of_ne hserved).1.trans hsession⟩

end Serving

/-! ## The sweep of a turn -/

section Sweep

variable {engine next : UdpEngine} {now : Instant} {event : Event}

theorem sweepTimer_handle (engine : UdpEngine) (now : Instant)
    (event : Event) :
    (engine.handle now event).1.sweepTimer = engine.sweepTimer := by
  unfold handle forward
  split
  · split <;> rfl
  · split <;> rfl
  · split <;> rfl
  · split <;> rfl
  · rfl
  · rfl

theorem sweepTimer_of_pingIfDue
    (hpinged : (engine.pingIfDue now).1 = .ok next) :
    next.sweepTimer = engine.sweepTimer := by
  unfold pingIfDue at hpinged
  dsimp only at hpinged
  split at hpinged
  · split at hpinged <;> cases hpinged
    rfl
  · cases hpinged
    rfl

theorem sweepIfDue_of_lt (hnow : now < engine.sweepTimer.next) :
    engine.sweepIfDue now = (engine, []) := by
  unfold sweepIfDue
  rw [Periodic.poll_of_lt hnow]
  rfl

theorem sweepIfDue_of_le (hnow : engine.sweepTimer.next ≤ now) :
    engine.sweepIfDue now =
      ({ engine with
          sweepTimer :=
            { engine.sweepTimer with next := now + engine.sweepTimer.period }
          sessions := (engine.sessions.sweep now).1 },
        (engine.sessions.sweep now).2.map fun entry =>
          .closeSession entry.2.socket) := by
  unfold sweepIfDue
  rw [Periodic.poll_of_le hnow]
  rfl

theorem sweepTimer_of_step (hstep : (engine.step now event).1 = .ok next) :
    next.sweepTimer = (engine.sweepTimer.poll now).2 := by
  have hpinged :
      (((engine.handle now event).1.sweepIfDue now).1.pingIfDue now).1 =
        .ok next := hstep
  have hswept (engine : UdpEngine) :
      (engine.sweepIfDue now).1.sweepTimer =
        (engine.sweepTimer.poll now).2 := by
    unfold sweepIfDue
    dsimp only
    split <;> rfl
  rw [sweepTimer_of_pingIfDue hpinged, hswept, sweepTimer_handle]

theorem get?_of_sweepIfDue {source : SocketAddress} {session : Session}
    (hsession : (engine.sweepIfDue now).1.sessions.get? source = some session) :
    engine.sessions.get? source = some session := by
  by_cases hnow : now < engine.sweepTimer.next
  · rwa [sweepIfDue_of_lt hnow] at hsession
  · rw [sweepIfDue_of_le (Int.not_lt.mp hnow)] at hsession
    dsimp only at hsession
    rw [SessionTable.get?_sweep, Option.filter_eq_some_iff] at hsession
    exact hsession.1

theorem get?_sweepIfDue_cases {source : SocketAddress} {session : Session}
    (hsession : engine.sessions.get? source = some session) (now : Instant) :
    (engine.sweepIfDue now).1.sessions.get? source = some session ∨
      (engine.sweepIfDue now).1.sessions.get? source = none ∧
        .closeSession session.socket ∈ (engine.sweepIfDue now).2 ∧
        session.lastActivity + Session.idleLimit < now := by
  by_cases hnow : now < engine.sweepTimer.next
  · left
    rw [sweepIfDue_of_lt hnow]
    exact hsession
  · rw [sweepIfDue_of_le (Int.not_lt.mp hnow)]
    dsimp only
    rw [SessionTable.get?_sweep, hsession, Option.filter_some]
    by_cases hexpired : session.isExpired now = true
    · right
      refine ⟨by simp [hexpired], ?_, Session.isExpired_iff.mp hexpired⟩
      have hmem := SessionTable.get?_eq_some_iff.mp hsession
      exact List.mem_map.mpr
        ⟨(source, session), List.mem_filter.mpr ⟨hmem, hexpired⟩, rfl⟩
    · left
      simp [hexpired]

theorem exists_of_closeSession_mem {socket : SocketId}
    (hclosed : .closeSession socket ∈ (engine.sweepIfDue now).2) :
    ∃ source session, engine.sessions.get? source = some session ∧
      session.socket = socket ∧
      session.lastActivity + Session.idleLimit < now := by
  by_cases hnow : now < engine.sweepTimer.next
  · rw [sweepIfDue_of_lt hnow] at hclosed
    cases hclosed
  · rw [sweepIfDue_of_le (Int.not_lt.mp hnow)] at hclosed
    obtain ⟨⟨source, session⟩, hentry, hsocket⟩ := List.mem_map.mp hclosed
    obtain ⟨hmem, hexpired⟩ := List.mem_filter.mp hentry
    cases hsocket
    exact ⟨source, session, SessionTable.get?_eq_some_iff.mpr hmem, rfl,
      Session.isExpired_iff.mp hexpired⟩

theorem closeSession_mem_step_iff {socket : SocketId} :
    .closeSession socket ∈ (engine.step now event).2 ↔
      .closeSession socket ∈
        ((engine.handle now event).1.sweepIfDue now).2 := by
  have hhandled : .closeSession socket ∉ (engine.handle now event).2 := by
    have hhandling := handling_handle engine now event
    generalize (engine.handle now event).1.sessions = after at hhandling
    generalize (engine.handle now event).2 = effects at hhandling ⊢
    cases hhandling with
    | known hsession => simp
    | opened hnone => simp
    | refused hnone => simp
    | returned howner => simp
    | apart hevent heffects =>
        intro hmem
        obtain ⟨sender, hpong⟩ := heffects _ hmem
        cases hpong
  have hpinged (engine : UdpEngine) :
      .closeSession socket ∉ (engine.pingIfDue now).2 := by
    unfold pingIfDue
    dsimp only
    split
    · split <;> simp
    · simp
  simp only [step, List.mem_append, hhandled, hpinged, false_or, or_false]

end Sweep

/-! ## What every turn keeps -/

/-- The engine after some turns, of which the last was at a given instant.
Each session knows when a datagram was last handled for it, and the next sweep
comes within a minute of that. -/
structure Tended (past : List Turn) (last : Instant) (engine : UdpEngine) :
    Prop where
  dated : ∀ source session, engine.sessions.get? source = some session →
    lastServed? past source = some session.lastActivity
  period : engine.sweepTimer.period = sweepInterval
  upcoming : last < engine.sweepTimer.next
  soon : engine.sweepTimer.next ≤ last + sweepInterval
  due : ∀ source session, engine.sessions.get? source = some session →
    engine.sweepTimer.next ≤
      session.lastActivity + Session.idleLimit + sweepInterval

theorem tended_start (began : Instant) : Tended [] began (start began).1 where
  dated := by
    intro source session hsession
    cases hsession
  period := rfl
  upcoming := Int.lt_add_of_pos_right began (by decide)
  soon := Int.le_refl _
  due := by
    intro source session hsession
    cases hsession

namespace Tended

variable {past : List Turn} {last now : Instant} {engine next : UdpEngine}
  {event : Event} {source : SocketAddress} {session : Session}

theorem dated_handle (htended : Tended past last engine)
    (hsession :
      (engine.handle now event).1.sessions.get? source = some session) :
    lastServed? (past ++ [⟨engine, now, event⟩]) source =
      some session.lastActivity := by
  have hserving := Turn.serving ⟨engine, now, event⟩
  rw [lastServed?_concat]
  by_cases hserved : Turn.served? ⟨engine, now, event⟩ = some source
  · rw [if_pos hserved]
    rw [hserved] at hserving
    obtain ⟨held, hheld, hactive, _⟩ := hserving.get?_self
    have hsame : some held = some session := hheld.symm.trans hsession
    cases hsame
    rw [hactive]
  · rw [if_neg hserved]
    have hbefore : engine.sessions.get? source = some session :=
      (hserving.get?_of_ne hserved).1.symm.trans hsession
    exact htended.dated source session hbefore

/-- Handling an event only makes sessions younger. -/
theorem due_handle (htended : Tended past last engine) (hlater : last ≤ now)
    (hsession :
      (engine.handle now event).1.sessions.get? source = some session) :
    engine.sweepTimer.next ≤
      session.lastActivity + Session.idleLimit + sweepInterval := by
  have hserving := Turn.serving ⟨engine, now, event⟩
  by_cases hserved : Turn.served? ⟨engine, now, event⟩ = some source
  · rw [hserved] at hserving
    obtain ⟨held, hheld, hactive, _⟩ := hserving.get?_self
    have hsame : some held = some session := hheld.symm.trans hsession
    cases hsame
    rw [hactive]
    calc
      engine.sweepTimer.next ≤ last + sweepInterval := htended.soon
      _ ≤ now + sweepInterval := Int.add_le_add_right hlater _
      _ ≤ now + Session.idleLimit + sweepInterval :=
        Int.add_le_add_right (Int.le_add_of_nonneg_right (by decide)) _
  · have hbefore : engine.sessions.get? source = some session :=
      (hserving.get?_of_ne hserved).1.symm.trans hsession
    exact htended.due source session hbefore

theorem step (htended : Tended past last engine) (hlater : last ≤ now)
    (hstep : (engine.step now event).1 = .ok next) :
    Tended (past ++ [⟨engine, now, event⟩]) now next := by
  have htimer := sweepTimer_of_step hstep
  have hsessions : next.sessions =
      ((engine.handle now event).1.sweepIfDue now).1.sessions :=
    (goesOn_of_step (Prod.ext hstep rfl)).sessions
  have hpositive : 0 < engine.sweepTimer.period := by
    rw [htended.period]
    decide
  have hsoon := htended.soon
  rw [← htended.period] at hsoon
  have hpolled := Periodic.poll_next hpositive hsoon hlater
  rw [← htimer, htended.period] at hpolled
  obtain ⟨hperiod, hupcoming, hsoon⟩ := hpolled
  constructor
  case dated =>
    intro source session hsession
    rw [hsessions] at hsession
    exact htended.dated_handle (get?_of_sweepIfDue hsession)
  case period => exact hperiod
  case upcoming => exact hupcoming
  case soon => exact hsoon
  case due =>
    intro source session hsession
    rw [hsessions] at hsession
    by_cases hnow : now < engine.sweepTimer.next
    · rw [htimer, Periodic.poll_of_lt hnow]
      exact htended.due_handle hlater (get?_of_sweepIfDue hsession)
    -- What a sweep leaves was idle for no longer than the limit.
    · have hswept : ¬ session.lastActivity + Session.idleLimit < now := by
        have hnext : (engine.handle now event).1.sweepTimer.next ≤ now := by
          rw [sweepTimer_handle]
          exact Int.not_lt.mp hnow
        rw [sweepIfDue_of_le hnext] at hsession
        dsimp only at hsession
        rw [SessionTable.get?_sweep, Option.filter_eq_some_iff] at hsession
        rw [← Session.isExpired_iff]
        simpa using hsession.2
      exact Int.le_trans hsoon
        (Int.add_le_add_right (Int.not_lt.mp hswept) _)

theorem run {events : List (Instant × Event)}
    (htended : Tended past last engine)
    (hordered : (last :: events.map Prod.fst).IsChain (· ≤ ·))
    (hrun : (engine.run events).1 = .ok next) :
    Tended (past ++ engine.turns events)
      ((events.map Prod.fst).getLastD last) next := by
  induction events generalizing past last engine with
  | nil =>
      cases hrun
      rw [turns, List.append_nil]
      exact htended
  | cons entry later ih =>
      obtain ⟨hlater, hordered⟩ := List.isChain_cons_cons.mp hordered
      obtain ⟨middle, effects, hstep, hmiddle⟩ := exists_of_run_cons hrun
      have hstepped := htended.step hlater (congrArg Prod.fst hstep)
      have hfinal := ih hstepped hordered hmiddle
      rw [turns_cons_of_ok hstep, List.map_cons, List.getLastD_cons]
      rwa [List.append_assoc, List.singleton_append] at hfinal

end Tended

/-! ## A client that is never idle for long -/

/-- At every turn a datagram was handled for the source within the last half a
minute, if any was handled before. -/
def Steady (turns : List Turn) (source : SocketAddress) : Prop :=
  ∀ earlier turn later, turns = earlier ++ turn :: later →
    ∀ last, lastServed? earlier source = some last →
      turn.now ≤ last + Duration.seconds 30

/-- After some turns a source has not been served, or it has had one private
socket ever since. -/
def Settled (past : List Turn) (engine : UdpEngine) (source : SocketAddress) :
    Prop :=
  (lastServed? past source = none ∧ engine.sessions.get? source = none ∧
      openingsFor past source = []) ∨
    ∃ session, lastServed? past source = some session.lastActivity ∧
      engine.sessions.get? source = some session ∧
      openingsFor past source = [⟨session.socket, source, session.route⟩]

namespace Settled

variable {past : List Turn} {engine next : UdpEngine} {now : Instant}
  {event : Event} {source : SocketAddress}

theorem handle (hsettled : Settled past engine source) :
    Settled (past ++ [⟨engine, now, event⟩]) (engine.handle now event).1
      source := by
  have hserving := Turn.serving ⟨engine, now, event⟩
  unfold Settled
  rw [lastServed?_concat, openingsFor_concat]
  by_cases hserved : Turn.served? ⟨engine, now, event⟩ = some source
  · rw [if_pos hserved]
    rw [hserved] at hserving
    right
    obtain ⟨session, hsession, hactive, hnew | ⟨held, hheld, hsame, hopened⟩⟩ :=
      hserving.get?_self
    · obtain ⟨hnone, hopened⟩ := hnew
      have hnothing : openingsFor past source = [] := by
        rcases hsettled with ⟨_, _, hnothing⟩ | ⟨session, _, hsession, _⟩
        · exact hnothing
        · rw [show engine.sessions.get? source = none from hnone] at hsession
          cases hsession
      refine ⟨session, by rw [hactive], hsession, ?_⟩
      rw [hnothing, hopened, List.nil_append]
    · have hkept : openingsFor past source =
          [⟨held.socket, source, held.route⟩] := by
        have hbefore : engine.sessions.get? source = some held := hheld
        rcases hsettled with ⟨_, hnone, _⟩ | ⟨session, _, hsession, hkept⟩
        · rw [hnone] at hbefore
          cases hbefore
        · rw [hbefore] at hsession
          cases hsession
          exact hkept
      refine ⟨session, by rw [hactive], hsession, ?_⟩
      rw [hkept, hopened, hsame]
      rfl
  · rw [if_neg hserved]
    obtain ⟨hsame, hopened⟩ := hserving.get?_of_ne hserved
    have hsessions : (engine.handle now event).1.sessions.get? source =
        engine.sessions.get? source := hsame
    rw [hopened, List.append_nil, hsessions]
    exact hsettled

theorem length_le_one (hsettled : Settled past engine source) :
    (openingsFor past source).length ≤ 1 := by
  rcases hsettled with ⟨_, _, hnothing⟩ | ⟨session, _, _, hopened⟩
  · simp [hnothing]
  · simp [hopened]

theorem step (hsettled : Settled past engine source)
    (hsteady : ∀ last, lastServed? past source = some last →
      now ≤ last + Duration.seconds 30)
    (hstep : (engine.step now event).1 = .ok next) :
    Settled (past ++ [⟨engine, now, event⟩]) next source := by
  have hsessions : next.sessions =
      ((engine.handle now event).1.sweepIfDue now).1.sessions :=
    (goesOn_of_step (Prod.ext hstep rfl)).sessions
  have hhandled : Settled (past ++ [⟨engine, now, event⟩]) _ source :=
    hsettled.handle
  unfold Settled
  rw [hsessions]
  rcases hhandled with ⟨hnever, hnone, hnothing⟩ |
    ⟨session, hserved, hsession, hopened⟩
  · left
    refine ⟨hnever, ?_, hnothing⟩
    apply Option.eq_none_iff_forall_ne_some.mpr
    intro session hsession
    rw [get?_of_sweepIfDue hsession] at hnone
    cases hnone
  · right
    have hrecent : now ≤ session.lastActivity + Session.idleLimit := by
      rw [lastServed?_concat] at hserved
      split at hserved
      · cases hserved
        exact Int.le_add_of_nonneg_right (by decide)
      · exact hsteady _ hserved
    rcases get?_sweepIfDue_cases hsession now with hkept | ⟨_, _, hidle⟩
    · exact ⟨session, hserved, hkept, hopened⟩
    · exact absurd hidle (Int.not_lt.mpr hrecent)

theorem run {events : List (Instant × Event)}
    (hsettled : Settled past engine source)
    (hsteady : Steady (past ++ engine.turns events) source) :
    (openingsFor (past ++ engine.turns events) source).length ≤ 1 ∧
      ∀ final, (engine.run events).1 = .ok final →
        Settled (past ++ engine.turns events) final source := by
  induction events generalizing past engine with
  | nil =>
      rw [turns, List.append_nil]
      refine ⟨hsettled.length_le_one, ?_⟩
      intro final hrun
      cases hrun
      exact hsettled
  | cons entry later ih =>
      obtain ⟨now, event⟩ := entry
      rw [UdpEngine.run]
      rw [turns] at hsteady ⊢
      have hrecent := hsteady past _ _ rfl
      cases hstep : engine.step now event with
      | mk outcome effects =>
          rw [hstep] at hsteady
          cases outcome with
          | error error =>
              refine ⟨hsettled.handle.length_le_one, ?_⟩
              intro final hrun
              cases hrun
          | ok middle =>
              have hmiddle :=
                hsettled.step hrecent (congrArg Prod.fst hstep)
              dsimp only at hsteady ⊢
              rw [← List.singleton_append, ← List.append_assoc]
                at hsteady ⊢
              exact ih hmiddle hsteady

end Settled

/-! ## The window -/

/-- Events of which each is handled at most a tick after the one before. -/
def Paced (began : Instant) (events : List (Instant × Event)) : Prop :=
  (began :: events.map Prod.fst).IsChain fun (earlier later : Instant) =>
    earlier ≤ later ∧ later ≤ earlier + tickInterval

/-- The engine after some events, at which it did not stop. -/
def Reaches (began : Instant) (seen : List (Instant × Event))
    (engine : UdpEngine) : Prop :=
  ((start began).1.run seen).1 = .ok engine

/-- When a datagram was last handled for a source. -/
def lastTraffic? (began : Instant) (seen : List (Instant × Event))
    (source : SocketAddress) : Option Instant :=
  lastServed? ((start began).1.turns seen) source

/-- When sessions go, and when they stay. -/
structure IdleWindow (began : Instant) (events : List (Instant × Event)) :
    Prop where
  /-- A private socket is closed only for a source that was idle for more than
  half a minute. -/
  closed : ∀ seen now event later engine socket,
    events = seen ++ (now, event) :: later → Reaches began seen engine →
    .closeSession socket ∈ (engine.step now event).2 →
      ∃ source session last,
        (engine.handle now event).1.sessions.get? source = some session ∧
          session.socket = socket ∧
          lastTraffic? began (seen ++ [(now, event)]) source = some last ∧
          last + Duration.seconds 30 < now
  /-- A session goes in no other way, nor does it get another socket or
  route. -/
  kept : ∀ seen now event later engine next source session,
    events = seen ++ (now, event) :: later → Reaches began seen engine →
    (engine.step now event).1 = .ok next →
    engine.sessions.get? source = some session →
      (∃ active, next.sessions.get? source =
          some { session with lastActivity := active }) ∨
        next.sessions.get? source = none ∧
          .closeSession session.socket ∈ (engine.step now event).2 ∧
          ∃ last,
            lastTraffic? began (seen ++ [(now, event)]) source = some last ∧
              last + Duration.seconds 30 < now
  /-- What is in the table before the next event is due was not idle for a
  minute and a fifth of a second. -/
  gone : ∀ seen engine source session now,
    seen <+: events → Reaches began seen engine →
    engine.sessions.get? source = some session →
    now ≤ (seen.map Prod.fst).getLastD began + tickInterval →
      ∃ last, lastTraffic? began seen source = some last ∧
        now ≤ last + Duration.milliseconds 60200
  /-- A client that is never idle for more than half a minute has one private
  socket from its first datagram on. -/
  steady : ∀ source, Steady ((start began).1.turns events) source →
    (openingsFor ((start began).1.turns events) source).length ≤ 1 ∧
      ∀ seen engine, seen <+: events → Reaches began seen engine →
        lastTraffic? began seen source ≠ none →
        ∃ session, engine.sessions.get? source = some session ∧
          openingsFor ((start began).1.turns events) source =
            [⟨session.socket, source, session.route⟩]

section

variable {began now : Instant} {events seen later : List (Instant × Event)}
  {event : Event} {engine next : UdpEngine} {source : SocketAddress}

theorem Paced.of_prefix (hpaced : Paced began events)
    (hseen : seen <+: events) : Paced began seen :=
  List.IsChain.prefix hpaced
    (List.cons_prefix_cons.mpr ⟨rfl, hseen.map Prod.fst⟩)

theorem Steady.of_prefix {turns earlier : List Turn}
    (hsteady : Steady turns source) (hearlier : earlier <+: turns) :
    Steady earlier source := by
  obtain ⟨later, rfl⟩ := hearlier
  rintro front turn back rfl
  exact hsteady front turn (back ++ later) (by simp)

theorem openingsFor_prefix {turns earlier : List Turn}
    (hearlier : earlier <+: turns) (source : SocketAddress) :
    openingsFor earlier source <+: openingsFor turns source := by
  obtain ⟨later, rfl⟩ := hearlier
  simp [openingsFor, openings]

namespace Reaches

theorem tended (hreaches : Reaches began seen engine)
    (hpaced : Paced began seen) :
    Tended ((start began).1.turns seen)
      ((seen.map Prod.fst).getLastD began) engine := by
  have hordered : (began :: seen.map Prod.fst).IsChain (· ≤ ·) :=
    List.IsChain.imp (fun _ _ hpace => hpace.1) hpaced
  have htended := (tended_start began).run hordered hreaches
  rwa [List.nil_append] at htended

theorem turns_prefix (hreaches : Reaches began seen engine)
    (hseen : seen <+: events) :
    (start began).1.turns seen <+: (start began).1.turns events := by
  obtain ⟨later, rfl⟩ := hseen
  rw [turns_append_of_ok hreaches]
  exact List.prefix_append _ _

theorem lastTraffic?_concat (hreaches : Reaches began seen engine)
    (now : Instant) (event : Event) (source : SocketAddress) :
    lastTraffic? began (seen ++ [(now, event)]) source =
      lastServed? ((start began).1.turns seen ++ [⟨engine, now, event⟩])
        source := by
  rw [lastTraffic?, turns_append_of_ok hreaches, turns]
  split <;> rfl

theorem settled (hreaches : Reaches began seen engine)
    (hsteady : Steady ((start began).1.turns seen) source) :
    Settled ((start began).1.turns seen) engine source := by
  have hstart : Settled [] (start began).1 source := .inl ⟨rfl, rfl, rfl⟩
  exact (hstart.run hsteady).2 engine hreaches

end Reaches

/-- An engine that is never without a turn for longer than a tick closes the
sessions that were idle for more than half a minute, and those within a minute
and a fifth of a second of their last datagram. -/
theorem run_idleWindow (hpaced : Paced began events) :
    IdleWindow began events where
  closed := by
    rintro seen now event later engine socket rfl hreaches hclosed
    have htended :=
      hreaches.tended (hpaced.of_prefix (List.prefix_append _ _))
    obtain ⟨source, session, hsession, hsocket, hidle⟩ :=
      exists_of_closeSession_mem (closeSession_mem_step_iff.mp hclosed)
    refine ⟨source, session, _, hsession, hsocket, ?_, hidle⟩
    rw [hreaches.lastTraffic?_concat]
    exact htended.dated_handle hsession
  kept := by
    rintro seen now event later engine next source session rfl hreaches hstep
      hsession
    have htended :=
      hreaches.tended (hpaced.of_prefix (List.prefix_append _ _))
    have hsessions : next.sessions =
        ((engine.handle now event).1.sweepIfDue now).1.sessions :=
      (goesOn_of_step (Prod.ext hstep rfl)).sessions
    obtain ⟨active, hhandled⟩ :=
      (Turn.serving ⟨engine, now, event⟩).get?_of_some hsession
    have hlast := htended.dated_handle hhandled
    rw [hsessions, closeSession_mem_step_iff, hreaches.lastTraffic?_concat]
    rcases get?_sweepIfDue_cases hhandled now with
      hkept | ⟨hnone, hclosed, hidle⟩
    · exact .inl ⟨active, hkept⟩
    · exact .inr ⟨hnone, hclosed, active, hlast, hidle⟩
  gone := by
    intro seen engine source session now hseen hreaches hsession hnow
    have htended := hreaches.tended (hpaced.of_prefix hseen)
    refine ⟨session.lastActivity, htended.dated source session hsession, ?_⟩
    have hupcoming := htended.upcoming
    have hdue := htended.due source session hsession
    calc
      now ≤ (seen.map Prod.fst).getLastD began + tickInterval := hnow
      _ ≤ engine.sweepTimer.next + tickInterval :=
        Int.add_le_add_right (Int.le_of_lt hupcoming) _
      _ ≤ session.lastActivity + Session.idleLimit + sweepInterval +
          tickInterval := Int.add_le_add_right hdue _
      _ ≤ session.lastActivity + Duration.milliseconds 60200 := by
        rw [Int.add_assoc, Int.add_assoc]
        exact Int.add_le_add_left (by decide) _
  steady := by
    intro source hsteady
    have hstart : Settled [] (start began).1 source := .inl ⟨rfl, rfl, rfl⟩
    have hfew := (hstart.run hsteady).1
    refine ⟨hfew, ?_⟩
    intro seen engine hseen hreaches hserved
    have hturns := hreaches.turns_prefix hseen
    rcases hreaches.settled (hsteady.of_prefix hturns) with
      ⟨hnever, _, _⟩ | ⟨session, _, hsession, hopened⟩
    · exact absurd hnever hserved
    · refine ⟨session, hsession, ?_⟩
      have hopenings := openingsFor_prefix hturns source
      rw [hopened] at hopenings
      exact (hopenings.eq_of_length_le hfew).symm

/-! ## An idle client and a busy one -/

def idler : SocketAddress := .v4 ⟨⟨198, 51, 100, 1⟩, 5000⟩

def talker : SocketAddress := .v4 ⟨⟨198, 51, 100, 2⟩, 5000⟩

/-- Two clients begin at once, and only one of them is answered later.  There
is a turn every tenth of a second from a twentieth on, with a pong each
second. -/
def vigil : List (Instant × Event) :=
  [(0, .fromClient idler [1] (some 10)), (0, .fromClient talker [2] (some 11))]
    ++ (List.range 301).map fun count =>
      ((Duration.milliseconds (50 + 100 * count) : Instant),
        if count % 10 = 0 then .atProber pong
        else if count = 155 then .fromSession 11 [3]
        else .tick)

theorem run_idleWindow_vigil :
    Paced 0 vigil ∧
      .closeSession 10 ∈ ((start 0).1.run vigil).2 ∧
      .closeSession 11 ∉ ((start 0).1.run vigil).2 ∧
      IdleWindow 0 vigil := by
  have hpaced : Paced 0 vigil := by
    unfold Paced
    decide +kernel
  exact ⟨hpaced, by decide +kernel, by decide +kernel, run_idleWindow hpaced⟩

end

end UdpEngine

end Pinhole
