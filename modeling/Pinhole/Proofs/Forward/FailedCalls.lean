import Pinhole.Forward.UdpCalls
import Pinhole.Proofs.Forward.IdleWindow
import Pinhole.Proofs.Stun.Attempt

/-!
# Calls that fail

When all calls for a datagram go well they come to what the engine does with an
event, and a failure changes nothing but what could not be done.
-/

namespace Pinhole

namespace UdpEngine

namespace Answers

/-- The private socket that can be had along a route, or why there is none. -/
def opening (answers : Answers) (route : Route) :
    Except SystemError SocketId := do
  if route = .keepalive then
    let _ ← answers.responder
  let socket ← answers.bound
  answers.connected
  return socket

/-- Whether an effect comes about.  A private socket that cannot be connected
is not had at all, so only sending is left to fail. -/
def carries (answers : Answers) : Effect → Bool
  | .connectSession .. => true
  | _ => answers.sent.isOk

/-- The event that a datagram of a client is to an engine. -/
def arrival (answers : Answers) (engine : UdpEngine) (source : SocketAddress)
    (payload : Bytes) : Event :=
  .fromClient source payload
    (answers.opening engine.sessions.upcomingRoute).toOption

end Answers

/-! ## What the calls come to -/

namespace Calls

theorem run_sessions (state : UdpEngine × List Effect) :
    sessions.run state = (.ok state.1.sessions, state) := rfl

theorem run_setSessions (table : SessionTable)
    (state : UdpEngine × List Effect) :
    (setSessions table).run state =
      (.ok (), { state.1 with sessions := table }, state.2) := rfl

theorem run_attempt {answers : Answers} {effect : Effect}
    (hcarries : answers.carries effect = answers.sent.isOk)
    (state : UdpEngine × List Effect) :
    (attempt answers.sent effect).run state =
      (.ok (), state.1, state.2 ++ [effect].filter answers.carries) := by
  rw [List.filter_singleton, hcarries]
  cases answers.sent with
  | ok => rfl
  | error fault =>
      change _ = (Except.ok (), state.1, state.2 ++ [])
      rw [List.append_nil]
      rfl

end Calls

section Calls

variable {engine : UdpEngine} {now : Instant} {source : SocketAddress}
  {payload : Bytes} {answers : Answers} {done : List Effect}

theorem run_openSocket (answers : Answers) (route : Route)
    (state : UdpEngine × List Effect) :
    (openSocket answers route).run state = (answers.opening route, state) := by
  obtain ⟨responder, bound, connected, sent⟩ := answers
  cases route <;> cases responder <;> cases bound <;> cases connected <;> rfl

theorem run_openSession_of_error {cause : SystemError}
    (hopening :
      answers.opening engine.sessions.upcomingRoute = .error cause) :
    (openSession now source answers).run (engine, done) =
      (.error cause, engine, done) := by
  have hsocket := run_openSocket answers engine.sessions.upcomingRoute
    (engine, done)
  rw [hopening] at hsocket
  simp only [openSession]
  exact Attempt.run_bind_of_error hsocket _

theorem run_openSession_of_ok {socket : SocketId}
    (hopening : answers.opening engine.sessions.upcomingRoute = .ok socket) :
    (openSession now source answers).run (engine, done) =
      (.ok (),
        { engine with
          sessions := (engine.sessions.insert source socket now).1 },
        done ++ [.connectSession socket source
          engine.sessions.upcomingRoute]) := by
  have hsocket := run_openSocket answers engine.sessions.upcomingRoute
    (engine, done)
  rw [hopening] at hsocket
  exact Attempt.run_bind_of_ok hsocket _

theorem run_relayFromSession (engine : UdpEngine) (now : Instant)
    (source : SocketAddress) (payload : Bytes) (answers : Answers)
    (done : List Effect) :
    (relayFromSession now source payload answers).run (engine, done) =
      (.ok (),
        { engine with sessions := engine.sessions.touch source now },
        done ++
          [Effect.sendToClient source payload].filter answers.carries) := by
  rw [relayFromSession, Attempt.run_bind_of_ok (Calls.run_sessions _),
    Attempt.run_bind_of_ok (Calls.run_setSessions _ _)]
  exact Calls.run_attempt rfl _

theorem run_passOn {session : Session}
    (hsession : engine.sessions.get? source = some session) :
    (passOn now source payload answers).run (engine, done) =
      (.ok (),
        { engine with sessions := engine.sessions.touch source now },
        done ++
          [Effect.sendOnSession session.socket payload].filter
            answers.carries) := by
  have htouched := SessionTable.get?_touch_self hsession now
  rw [passOn, Attempt.run_bind_of_ok (Calls.run_sessions _),
    Attempt.run_bind_of_ok (Calls.run_setSessions _ _),
    Attempt.run_bind_of_ok (Calls.run_sessions _)]
  simp only [htouched]
  exact Calls.run_attempt rfl _

theorem run_relayFromClient_of_known {session : Session}
    (hsession : engine.sessions.get? source = some session) :
    (relayFromClient now source payload answers).run (engine, done) =
      (passOn now source payload answers).run (engine, done) := by
  rw [relayFromClient, Attempt.run_bind_of_ok (Calls.run_sessions _)]
  simp only [hsession, Option.isNone_some]
  rfl

theorem run_relayFromClient_of_new
    (hnone : engine.sessions.get? source = none) :
    (relayFromClient now source payload answers).run (engine, done) =
      (openSession now source answers >>= fun _ =>
        passOn now source payload answers).run (engine, done) := by
  rw [relayFromClient, Attempt.run_bind_of_ok (Calls.run_sessions _)]
  simp only [hnone, Option.isNone_none]
  rfl

/-- The calls for a datagram of a client come to what the engine does with the
event, whichever of them fail. -/
theorem run_relayFromClient (engine : UdpEngine) (now : Instant)
    (source : SocketAddress) (payload : Bytes) (answers : Answers)
    (done : List Effect) :
    ((relayFromClient now source (payload.take receiveLimit) answers).run
        (engine, done)).2 =
      ((engine.handle now (answers.arrival engine source payload)).1,
        done ++
          (engine.handle now
            (answers.arrival engine source payload)).2.filter
              answers.carries) := by
  unfold Answers.arrival
  cases hsession : engine.sessions.get? source with
  | some session =>
      rw [run_relayFromClient_of_known hsession, run_passOn hsession]
      simp only [handle, hsession, forward]
  | none =>
      rw [run_relayFromClient_of_new hsession]
      cases hopening : answers.opening engine.sessions.upcomingRoute with
      | error cause =>
          rw [Attempt.run_bind_of_error (run_openSession_of_error hopening)]
          simp only [Except.toOption, handle, hsession, List.filter_nil,
            List.append_nil]
      | ok socket =>
          -- The route chosen for the socket is the one the session then gets.
          have hinserted :=
            engine.sessions.get?_insert_self source socket now
          rw [Attempt.run_bind_of_ok (run_openSession_of_ok hopening),
            run_passOn hinserted]
          simp only [Except.toOption, handle, hsession, forward]
          rw [List.append_assoc]
          rfl

end Calls

/-! ## What a failure leaves behind -/

/-- A source without a session, for which no private socket can be had. -/
structure Refused (engine : UdpEngine) (source : SocketAddress)
    (answers : Answers) (cause : SystemError) : Prop where
  unknown : engine.sessions.get? source = none
  failed : answers.opening engine.sessions.upcomingRoute = .error cause

/-- When neither timer is due. -/
def Quiet (engine : UdpEngine) (now : Instant) : Prop :=
  now < engine.sweepTimer.next ∧ now < engine.pingTimer.next

/-- An event after which an engine is as if it had not taken place. -/
structure Forgets (engine : UdpEngine) (now : Instant) (event : Event) :
    Prop where
  handled : engine.handle now event = (engine, [])
  /-- No event keeps the engine from looking at its timers. -/
  step : engine.step now event = engine.step now .tick
  run : ∀ (origin : UdpEngine) (earlier later : List (Instant × Event)),
    (origin.run earlier).1 = .ok engine →
      origin.run (earlier ++ (now, event) :: later) =
        origin.run (earlier ++ (now, .tick) :: later)
  run_quiet : ∀ (origin : UdpEngine) (earlier later : List (Instant × Event)),
    (origin.run earlier).1 = .ok engine → Quiet engine now →
      origin.run (earlier ++ (now, event) :: later) =
        origin.run (earlier ++ later)
  upcomingRoute : ∀ next, (engine.step now event).1 = .ok next →
    next.sessions.upcomingRoute = engine.sessions.upcomingRoute
  /-- The route to the responder is that of the first private socket that was
  opened, however many could not be.  (The count of sockets has 64 bits.) -/
  keepalive : ∀ began seen next, Reaches began seen engine →
    (engine.step now event).1 = .ok next →
      (next.sessions.upcomingRoute = .keepalive ↔
        (openings ((start began).1.turns seen)).length % UInt64.size = 0)

/-- A call that never takes a session away, nor its socket or route. -/
def Keeps (engine : UdpEngine) (calls : Calls Unit) : Prop :=
  ∀ done client session, engine.sessions.get? client = some session →
    ∃ active, (calls.run (engine, done)).2.1.sessions.get? client =
      some { session with lastActivity := active }

section

variable {engine next : UdpEngine} {now : Instant} {event : Event}
  {source : SocketAddress} {payload : Bytes} {answers : Answers}
  {cause : SystemError}

theorem step_of_handle (hhandled : engine.handle now event = (engine, [])) :
    engine.step now event = engine.step now .tick := by
  unfold step
  rw [hhandled]
  rfl

theorem step_tick_of_quiet (hquiet : Quiet engine now) :
    engine.step now .tick = (.ok engine, []) := by
  have hpinged : engine.pingIfDue now = (.ok engine, []) := by
    unfold pingIfDue
    rw [Periodic.poll_of_lt hquiet.2]
    rfl
  simp only [step, handle, sweepIfDue_of_lt hquiet.1, hpinged,
    List.append_nil]

theorem upcomingRoute_of_step
    (hhandled : engine.handle now event = (engine, []))
    (hstep : (engine.step now event).1 = .ok next) :
    next.sessions.upcomingRoute = engine.sessions.upcomingRoute := by
  rcases sessions_of_step_eq_ok hstep with hsame | hswept
  · rw [hsame, hhandled]
  · rw [hswept, hhandled]
    rfl

/-- An event that does nothing when it is handled is forgotten. -/
theorem forgets_of_handle (hhandled : engine.handle now event = (engine, [])) :
    Forgets engine now event where
  handled := hhandled
  step := step_of_handle hhandled
  run := by
    intro origin earlier later hreached
    rw [run_append_of_ok hreached, run_append_of_ok hreached, UdpEngine.run,
      UdpEngine.run, step_of_handle hhandled]
  run_quiet := by
    intro origin earlier later hreached hquiet
    rw [run_append_of_ok hreached, run_append_of_ok hreached, UdpEngine.run,
      step_of_handle hhandled, step_tick_of_quiet hquiet]
    rfl
  upcomingRoute := fun next => upcomingRoute_of_step hhandled
  keepalive := by
    intro began seen next hreaches hstep
    have haccounts := accounts_empty.run hreaches
    rw [upcomingRoute_of_step hhandled hstep]
    exact haccounts.upcomingRoute_eq_keepalive_iff

theorem Refused.handle (hrefused : Refused engine source answers cause)
    (now : Instant) (payload : Bytes) :
    engine.handle now (answers.arrival engine source payload) =
      (engine, []) := by
  simp only [Answers.arrival, hrefused.failed, Except.toOption,
    UdpEngine.handle, hrefused.unknown]

theorem run_relayFromClient_of_refused {done : List Effect}
    (hrefused : Refused engine source answers cause) :
    (relayFromClient now source payload answers).run (engine, done) =
      (.error cause, engine, done) := by
  rw [run_relayFromClient_of_new hrefused.unknown]
  apply Attempt.run_bind_of_error
  exact run_openSession_of_error hrefused.failed

theorem keeps_of_handle {calls : Calls Unit}
    (hcalls : ∀ done,
      (calls.run (engine, done)).2.1 = (engine.handle now event).1) :
    Keeps engine calls := by
  intro done client session hsession
  have hserving := Turn.serving ⟨engine, now, event⟩
  rw [hcalls]
  exact hserving.get?_of_some hsession

theorem keeps_relayFromSession :
    Keeps engine (relayFromSession now source payload answers) := by
  intro done client session hsession
  rw [run_relayFromSession, SessionTable.get?_touch, hsession]
  by_cases hclient : client = source
  · exact ⟨now, if_pos hclient⟩
  · exact ⟨session.lastActivity, if_neg hclient⟩

theorem handle_fromSession {socket : SocketId}
    (howner : engine.sessions.owner? socket = some source) :
    engine.handle now (.fromSession socket payload) =
      ({ engine with sessions := engine.sessions.touch source now },
        [.sendToClient source (payload.take receiveLimit)]) := by
  simp only [handle, howner]

end

/-- What becomes of an engine when some of the calls for a datagram fail. -/
structure Withstands (engine : UdpEngine) (now : Instant) (payload : Bytes)
    (answers : Answers) : Prop where
  /-- The calls for a datagram of a client come to what the engine does with
  the event. -/
  fromClient : ∀ source done,
    ((relayFromClient now source (payload.take receiveLimit) answers).run
        (engine, done)).2 =
      ((engine.handle now (answers.arrival engine source payload)).1,
        done ++
          (engine.handle now
            (answers.arrival engine source payload)).2.filter
              answers.carries)
  /-- So do those for a datagram at a private socket. -/
  fromSession : ∀ socket source done,
    engine.sessions.owner? socket = some source →
      (relayFromSession now source (payload.take receiveLimit) answers).run
          (engine, done) =
        (.ok (), (engine.handle now (.fromSession socket payload)).1,
          done ++
            (engine.handle now (.fromSession socket payload)).2.filter
              answers.carries)
  /-- If no private socket can be had for a datagram, the calls end with
  everything as it was. -/
  refused : ∀ source cause, Refused engine source answers cause →
    (∀ done,
      (relayFromClient now source (payload.take receiveLimit) answers).run
          (engine, done) =
        (.error cause, engine, done)) ∧
      Forgets engine now (answers.arrival engine source payload)
  /-- No session is lost or led elsewhere, whatever fails. -/
  keeps : ∀ source,
    Keeps engine
        (relayFromClient now source (payload.take receiveLimit) answers) ∧
      Keeps engine
        (relayFromSession now source (payload.take receiveLimit) answers)
  /-- That a datagram cannot be sent makes no difference to the engine. -/
  sent : ∀ source done sent,
    ((relayFromClient now source (payload.take receiveLimit)
          { answers with sent := sent }).run (engine, done)).2.1 =
        ((relayFromClient now source (payload.take receiveLimit)
          answers).run (engine, done)).2.1 ∧
      ((relayFromSession now source (payload.take receiveLimit)
            { answers with sent := sent }).run (engine, done)).2.1 =
          ((relayFromSession now source (payload.take receiveLimit)
            answers).run (engine, done)).2.1

theorem withstands_failedCalls (engine : UdpEngine) (now : Instant)
    (payload : Bytes) (answers : Answers) :
    Withstands engine now payload answers where
  fromClient := fun source done =>
    run_relayFromClient engine now source payload answers done
  fromSession := by
    intro socket source done howner
    rw [run_relayFromSession, handle_fromSession howner]
  refused := by
    intro source cause hrefused
    constructor
    · intro done
      exact run_relayFromClient_of_refused hrefused
    · exact forgets_of_handle (hrefused.handle now payload)
  keeps := by
    intro source
    constructor
    · apply keeps_of_handle
      intro done
      rw [run_relayFromClient]
    · exact keeps_relayFromSession
  sent := by
    intro source done sent
    constructor
    · rw [run_relayFromClient, run_relayFromClient]
      rfl
    · rw [run_relayFromSession, run_relayFromSession]

/-- A system that binds sockets, but does not connect them. -/
def unconnected : Answers where
  responder := .ok ⟨.loopback, 4000⟩
  bound := .ok 10
  connected := .error .networkUnreachable
  sent := .ok ()

def refusedCaller : SocketAddress := .v4 ⟨⟨198, 51, 100, 1⟩, 5000⟩

def laterCaller : SocketAddress := .v4 ⟨⟨198, 51, 100, 2⟩, 5000⟩

def accepted : Instant × Event :=
  (0, .fromClient laterCaller [2] (some 11))

/-- The caller that is refused does not use up the route to the responder. -/
theorem withstands_failedCalls_first :
    Refused (start 0).1 refusedCaller unconnected .networkUnreachable ∧
      Forgets (start 0).1 0
        (unconnected.arrival (start 0).1 refusedCaller [1]) ∧
      ((start 0).1.run
          [(0, unconnected.arrival (start 0).1 refusedCaller [1]),
            accepted]).2 =
        [.connectSession 11 laterCaller .keepalive, .sendOnSession 11 [2]] := by
  have hrefused :
      Refused (start 0).1 refusedCaller unconnected .networkUnreachable :=
    ⟨rfl, rfl⟩
  have hwithstands := withstands_failedCalls (start 0).1 0 [1] unconnected
  have hforgets := (hwithstands.refused _ _ hrefused).2
  refine ⟨hrefused, hforgets, ?_⟩
  have hquiet : Quiet (start 0).1 0 := ⟨by decide, by decide⟩
  have hdropped := hforgets.run_quiet (start 0).1 [] [accepted] rfl hquiet
  rw [List.nil_append, List.nil_append] at hdropped
  rw [hdropped]
  rfl

end UdpEngine

end Pinhole
