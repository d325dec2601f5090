import Mathlib.Data.List.Flatten
import Mathlib.Data.List.Nodup
import Pinhole.Forward.UdpEngine
import Pinhole.Proofs.Forward.SessionTable

/-!
# Clients do not see each other's traffic

A run of the UDP engine is cut into turns, one for each event that it handled.
The private sockets that were opened, in the order of the turns, make up a log
from which everything else can be told: the table never holds a socket under
another source or route than the log does, and the router has counted exactly
the entries of the log.  From this invariant, which every turn keeps, it
follows where each datagram may go.

Nothing is assumed of the order of events, of the datagrams or of what can be
opened, but that the system never gives out the same socket twice.
-/

namespace Pinhole

namespace UdpEngine

/-! ## The turns of a run -/

def Effect.assignment? : Effect → Option Assignment
  | .connectSession socket source route => some ⟨socket, source, route⟩
  | _ => none

def Effect.sentOnSession? : Effect → Option (SocketId × Bytes)
  | .sendOnSession socket payload => some (socket, payload)
  | _ => none

def Effect.sentToClient? : Effect → Option (SocketAddress × Bytes)
  | .sendToClient client payload => some (client, payload)
  | _ => none

/-- How many bytes the datagram of an event has. -/
def Event.size : Event → Nat
  | .fromClient _ payload _ => payload.length
  | .fromSession _ payload => payload.length
  | .atResponder _ payload => payload.length
  | .atProber payload => payload.length
  | .readFailed | .tick => 0

/-- An event that was handled, and the engine it came to. -/
structure Turn where
  before : UdpEngine
  now : Instant
  event : Event

namespace Turn

/-- The engine when the event is handled and the timers are not looked at
yet. -/
def handled (turn : Turn) : UdpEngine :=
  (turn.before.handle turn.now turn.event).1

def effects (turn : Turn) : List Effect :=
  (turn.before.step turn.now turn.event).2

def opened (turn : Turn) : List Assignment :=
  turn.effects.filterMap Effect.assignment?

def forwarded (turn : Turn) : List (SocketId × Bytes) :=
  turn.effects.filterMap Effect.sentOnSession?

def returned (turn : Turn) : List (SocketAddress × Bytes) :=
  turn.effects.filterMap Effect.sentToClient?

/-- What was sent on one private socket. -/
def forwardedOn (turn : Turn) (socket : SocketId) : List Bytes :=
  (turn.forwarded.filter fun sent => sent.1 = socket).map Prod.snd

/-- What reached the public socket from one source. -/
def arrivedFrom (turn : Turn) (source : SocketAddress) : List Bytes :=
  match turn.event with
  | .fromClient client payload _ => if client = source then [payload] else []
  | _ => []

end Turn

/-- The turns of a run; the last one may stop the engine. -/
def turns (engine : UdpEngine) : List (Instant × Event) → List Turn
  | [] => []
  | (now, event) :: later =>
      ⟨engine, now, event⟩ ::
        match (engine.step now event).1 with
        | .error _ => []
        | .ok next => next.turns later

theorem effects_run (engine : UdpEngine) (events : List (Instant × Event)) :
    (engine.run events).2 = (engine.turns events).flatMap Turn.effects := by
  induction events generalizing engine with
  | nil => rfl
  | cons entry later ih =>
      obtain ⟨now, event⟩ := entry
      rw [run, turns, List.flatMap_cons]
      cases hstep : engine.step now event with
      | mk outcome effects =>
          have heffects :
              Turn.effects ⟨engine, now, event⟩ = effects := by
            simp only [Turn.effects, hstep]
          cases outcome with
          | error error => simp [heffects]
          | ok next => simp [heffects, ih next]

section Cons

variable {engine next final : UdpEngine} {now : Instant} {event : Event}
  {effects : List Effect} {later : List (Instant × Event)}

theorem run_cons_of_ok (hstep : engine.step now event = (.ok next, effects)) :
    engine.run ((now, event) :: later) =
      ((next.run later).1, effects ++ (next.run later).2) := by
  rw [run, hstep]

theorem turns_cons_of_ok (hstep : engine.step now event = (.ok next, effects)) :
    engine.turns ((now, event) :: later) =
      ⟨engine, now, event⟩ :: next.turns later := by
  rw [turns, hstep]

theorem exists_of_run_cons
    (hrun : (engine.run ((now, event) :: later)).1 = .ok final) :
    ∃ next effects, engine.step now event = (.ok next, effects) ∧
      (next.run later).1 = .ok final := by
  rw [run] at hrun
  cases hstep : engine.step now event with
  | mk outcome effects =>
      rw [hstep] at hrun
      cases outcome with
      | error error => cases hrun
      | ok next => exact ⟨next, effects, rfl, hrun⟩

end Cons

/-- A run whose first part does not stop the engine goes on with the second. -/
theorem run_append_of_ok {engine next : UdpEngine}
    {events : List (Instant × Event)} (hrun : (engine.run events).1 = .ok next)
    (later : List (Instant × Event)) :
    engine.run (events ++ later) =
      ((next.run later).1, (engine.run events).2 ++ (next.run later).2) := by
  induction events generalizing engine with
  | nil =>
      cases hrun
      rfl
  | cons entry events ih =>
      obtain ⟨middle, effects, hstep, hmiddle⟩ := exists_of_run_cons hrun
      rw [List.cons_append, run_cons_of_ok hstep, run_cons_of_ok hstep,
        ih hmiddle, List.append_assoc]

theorem turns_append_of_ok {engine next : UdpEngine}
    {events : List (Instant × Event)} (hrun : (engine.run events).1 = .ok next)
    (later : List (Instant × Event)) :
    engine.turns (events ++ later) =
      engine.turns events ++ next.turns later := by
  induction events generalizing engine with
  | nil =>
      cases hrun
      rfl
  | cons entry events ih =>
      obtain ⟨middle, effects, hstep, hmiddle⟩ := exists_of_run_cons hrun
      rw [List.cons_append, turns_cons_of_ok hstep, turns_cons_of_ok hstep,
        ih hmiddle, List.cons_append]

theorem mem_events_of_mem_turns {engine : UdpEngine}
    {events : List (Instant × Event)} {turn : Turn}
    (hturn : turn ∈ engine.turns events) :
    (turn.now, turn.event) ∈ events := by
  induction events generalizing engine with
  | nil => simp [turns] at hturn
  | cons entry later ih =>
      obtain ⟨now, event⟩ := entry
      rw [turns, List.mem_cons] at hturn
      rcases hturn with rfl | hlater
      · exact List.mem_cons_self
      · apply List.mem_cons_of_mem
        cases hstep : (engine.step now event).1 with
        | error error => simp [hstep] at hlater
        | ok next =>
            rw [hstep] at hlater
            exact ih hlater

/-! ## One turn -/

/-- The timers neither open a socket nor pass a datagram on. -/
theorem filterMap_step {α : Type} (read : Effect → Option α)
    (hclose : ∀ socket, read (.closeSession socket) = none)
    (hping : read .sendPing = none)
    (engine : UdpEngine) (now : Instant) (event : Event) :
    (engine.step now event).2.filterMap read =
      (engine.handle now event).2.filterMap read := by
  have hswept (engine : UdpEngine) :
      (engine.sweepIfDue now).2.filterMap read = [] := by
    unfold sweepIfDue
    dsimp only
    split
    · simp [List.filterMap_map, hclose]
    · rfl
  have hpinged (engine : UdpEngine) :
      (engine.pingIfDue now).2.filterMap read = [] := by
    unfold pingIfDue
    dsimp only
    split
    · split
      · rfl
      · simp [hping]
    · rfl
  simp only [step, List.filterMap_append, hswept, hpinged, List.append_nil]

/-- The timers leave the sessions as they are, or sweep them. -/
theorem sessions_of_step_eq_ok {engine next : UdpEngine} {now : Instant}
    {event : Event} (hstep : (engine.step now event).1 = .ok next) :
    next.sessions = (engine.handle now event).1.sessions ∨
      next.sessions =
        ((engine.handle now event).1.sessions.sweep now).1 := by
  have hping (engine : UdpEngine)
      (hok : (engine.pingIfDue now).1 = .ok next) :
      next.sessions = engine.sessions := by
    unfold pingIfDue at hok
    dsimp only at hok
    split at hok
    · split at hok
      · simp at hok
      · simp only [Except.ok.injEq] at hok
        rw [← hok]
    · simp only [Except.ok.injEq] at hok
      rw [← hok]
  have hsweep (engine : UdpEngine) :
      (engine.sweepIfDue now).1.sessions = engine.sessions ∨
        (engine.sweepIfDue now).1.sessions =
          (engine.sessions.sweep now).1 := by
    unfold sweepIfDue
    dsimp only
    split
    · exact Or.inr rfl
    · exact Or.inl rfl
  have hsessions := hping _ hstep
  rw [hsessions]
  exact hsweep (engine.handle now event).1

/-- What an event can do to the sessions, and the effects it has. -/
inductive Handling (table : SessionTable) (now : Instant) :
    Event → SessionTable → List Effect → Prop
  | known {source payload opened session}
      (hsession : table.get? source = some session) :
      Handling table now (.fromClient source payload opened)
        (table.touch source now)
        [.sendOnSession session.socket (payload.take receiveLimit)]
  | opened {source payload socket} (hnone : table.get? source = none) :
      Handling table now (.fromClient source payload (some socket))
        ((table.insert source socket now).1.touch source now)
        [.connectSession socket source table.upcomingRoute,
          .sendOnSession socket (payload.take receiveLimit)]
  | refused {source payload} (hnone : table.get? source = none) :
      Handling table now (.fromClient source payload none) table []
  | returned {socket payload source}
      (howner : table.owner? socket = some source) :
      Handling table now (.fromSession socket payload)
        (table.touch source now)
        [.sendToClient source (payload.take receiveLimit)]
  | apart {event effects}
      (hevent : ∀ source payload opened,
        event ≠ .fromClient source payload opened)
      (heffects : ∀ effect ∈ effects, ∃ sender, effect = .sendPong sender) :
      Handling table now event table effects

theorem handling_handle (engine : UdpEngine) (now : Instant)
    (event : Event) :
    Handling engine.sessions now event (engine.handle now event).1.sessions
      (engine.handle now event).2 := by
  cases event with
  | fromClient source payload opened =>
      cases hsession : engine.sessions.get? source with
      | some session =>
          simp only [handle, hsession, forward]
          exact Handling.known hsession
      | none =>
          cases opened with
          | none =>
              simp only [handle, hsession]
              exact Handling.refused hsession
          | some socket =>
              simp only [handle, hsession, forward]
              exact Handling.opened hsession
  | fromSession socket payload =>
      cases howner : engine.sessions.owner? socket with
      | none =>
          simp only [handle, howner]
          exact Handling.apart (by simp) (by simp)
      | some source =>
          simp only [handle, howner]
          exact Handling.returned howner
  | atResponder sender payload =>
      simp only [handle]
      by_cases hping : payload.take keepaliveLimit = ping
      · rw [if_pos hping]
        exact Handling.apart (by simp) (by simp)
      · rw [if_neg hping]
        exact Handling.apart (by simp) (by simp)
  | atProber payload =>
      simp only [handle]
      by_cases hpong : payload.take keepaliveLimit = pong
      · rw [if_pos hpong]
        exact Handling.apart (by simp) (by simp)
      · rw [if_neg hpong]
        exact Handling.apart (by simp) (by simp)
  | readFailed =>
      simp only [handle]
      exact Handling.apart (by simp) (by simp)
  | tick =>
      simp only [handle]
      exact Handling.apart (by simp) (by simp)

private theorem filterMap_pongs {α : Type} (read : Effect → Option α)
    (hpong : ∀ sender, read (.sendPong sender) = none)
    {effects : List Effect}
    (heffects : ∀ effect ∈ effects, ∃ sender, effect = .sendPong sender) :
    effects.filterMap read = [] := by
  rw [List.filterMap_eq_nil_iff]
  intro effect hmem
  obtain ⟨sender, rfl⟩ := heffects effect hmem
  exact hpong sender

/-! ## The log of opened sockets -/

/-- What a log of all sockets opened so far has to do with a table. -/
structure Accounts (log : List Assignment) (table : SessionTable) :
    Prop where
  held : ∀ assignment ∈ table.assignments, assignment ∈ log
  counted : table.router.assigned = UInt64.ofNat log.length
  routed : ∀ index assignment, log[index]? = some assignment →
    (assignment.route = .keepalive ↔ index % UInt64.size = 0)

theorem accounts_empty : Accounts [] SessionTable.empty where
  held := by simp
  counted := rfl
  routed := by simp

theorem Accounts.of_sublist {log : List Assignment}
    {table other : SessionTable} (haccounts : Accounts log table)
    (hassignments : other.assignments.Sublist table.assignments)
    (hrouter : other.router = table.router) : Accounts log other where
  held := by
    intro assignment hmem
    exact haccounts.held assignment (hassignments.subset hmem)
  counted := by rw [hrouter, haccounts.counted]
  routed := haccounts.routed

theorem Accounts.touch {log : List Assignment} {table : SessionTable}
    (haccounts : Accounts log table) (source : SocketAddress)
    (now : Instant) : Accounts log (table.touch source now) := by
  apply haccounts.of_sublist
  · rw [SessionTable.assignments_touch]
  · rfl

theorem Accounts.sweep {log : List Assignment} {table : SessionTable}
    (haccounts : Accounts log table) (now : Instant) :
    Accounts log (table.sweep now).1 :=
  haccounts.of_sublist (table.assignments_sweep_sublist now) rfl

theorem Accounts.upcomingRoute_eq_keepalive_iff {log : List Assignment}
    {table : SessionTable} (haccounts : Accounts log table) :
    table.upcomingRoute = .keepalive ↔ log.length % UInt64.size = 0 := by
  have hassigned :
      table.router.assigned = 0 ↔ log.length % UInt64.size = 0 := by
    rw [haccounts.counted, ← UInt64.toNat_inj, UInt64.toNat_ofNat']
    rfl
  unfold SessionTable.upcomingRoute Router.upcoming
  rw [← hassigned]
  by_cases hzero : table.router.assigned = 0
  · simp [hzero]
  · simp [hzero]

theorem Accounts.insert {log : List Assignment} {table : SessionTable}
    (haccounts : Accounts log table) (source : SocketAddress)
    (socket : SocketId) (now : Instant) :
    Accounts (log ++ [⟨socket, source, table.upcomingRoute⟩])
      (table.insert source socket now).1 where
  held := by
    intro assignment hmem
    rw [List.mem_append, List.mem_singleton]
    rcases SessionTable.mem_assignments_insert hmem with hold | hnew
    · exact Or.inl (haccounts.held assignment hold)
    · exact Or.inr hnew
  counted := by
    rw [SessionTable.router_insert, haccounts.counted, List.length_append,
      List.length_singleton]
    apply UInt64.toNat_inj.mp
    simp [UInt64.toNat_add]
  routed := by
    intro index assignment hget
    by_cases hold : index < log.length
    · rw [List.getElem?_append_left hold] at hget
      exact haccounts.routed index assignment hget
    · have hlast : index = log.length := by
        have hbound := (List.getElem?_eq_some_iff.mp hget).1
        rw [List.length_append, List.length_singleton] at hbound
        omega
      subst hlast
      rw [List.getElem?_concat_length, Option.some.injEq] at hget
      rw [← hget]
      exact haccounts.upcomingRoute_eq_keepalive_iff

theorem Accounts.handling {log : List Assignment}
    {table after : SessionTable} {now : Instant} {event : Event}
    {effects : List Effect} (haccounts : Accounts log table)
    (hhandling : Handling table now event after effects) :
    Accounts (log ++ effects.filterMap Effect.assignment?) after := by
  cases hhandling with
  | known hsession =>
      change Accounts (log ++ []) _
      rw [List.append_nil]
      exact haccounts.touch _ now
  | opened hnone =>
      exact (haccounts.insert _ _ now).touch _ now
  | refused hnone =>
      rw [List.filterMap_nil, List.append_nil]
      exact haccounts
  | returned howner =>
      change Accounts (log ++ []) _
      rw [List.append_nil]
      exact haccounts.touch _ now
  | apart hevent heffects =>
      rw [filterMap_pongs Effect.assignment? (fun _ => rfl) heffects,
        List.append_nil]
      exact haccounts

namespace Turn

/-- What the timers add is left out. -/
theorem handling (turn : Turn) :
    ∃ effects,
      Handling turn.before.sessions turn.now turn.event
          turn.handled.sessions effects ∧
        turn.opened = effects.filterMap Effect.assignment? ∧
        turn.forwarded = effects.filterMap Effect.sentOnSession? ∧
        turn.returned = effects.filterMap Effect.sentToClient? :=
  ⟨(turn.before.handle turn.now turn.event).2,
    handling_handle turn.before turn.now turn.event,
    filterMap_step _ (fun _ => rfl) rfl _ _ _,
    filterMap_step _ (fun _ => rfl) rfl _ _ _,
    filterMap_step _ (fun _ => rfl) rfl _ _ _⟩

theorem accounts_handled (turn : Turn) {log : List Assignment}
    (haccounts : Accounts log turn.before.sessions) :
    Accounts (log ++ turn.opened) turn.handled.sessions := by
  obtain ⟨effects, hhandling, hopened, _, _⟩ := turn.handling
  rw [hopened]
  exact haccounts.handling hhandling

/-- Only a datagram at the private socket of a session is returned, once and
to the session's source. -/
theorem returned_cases (turn : Turn)
    (hsize : turn.event.size ≤ receiveLimit) :
    turn.returned = [] ∨
      ∃ client session payload,
        turn.before.sessions.get? client = some session ∧
          turn.event = .fromSession session.socket payload ∧
          turn.returned = [(client, payload)] := by
  obtain ⟨effects, hhandling, _, _, hreturned⟩ := turn.handling
  rw [hreturned]
  generalize hevent : turn.event = event at hhandling hsize
  generalize turn.handled.sessions = after at hhandling
  cases hhandling with
  | known hsession => exact Or.inl rfl
  | opened hnone => exact Or.inl rfl
  | refused hnone => exact Or.inl rfl
  | @returned socket payload source howner =>
      obtain ⟨session, hsession, rfl⟩ := SessionTable.get?_of_owner? howner
      have hpayload : payload.take receiveLimit = payload :=
        List.take_of_length_le hsize
      right
      refine ⟨source, session, payload, hsession, rfl, ?_⟩
      rw [hpayload]
      rfl
  | apart hevent heffects =>
      left
      exact filterMap_pongs Effect.sentToClient? (fun _ => rfl) heffects

/-- Only a datagram of a client is forwarded, once and on the private socket
of the client's session.  It is dropped only if the client has no session and
none can be opened. -/
theorem forwarded_cases (turn : Turn)
    (hsize : turn.event.size ≤ receiveLimit) :
    (turn.forwarded = [] ∧
        ∀ client payload opened,
          turn.event = .fromClient client payload opened →
            opened = none ∧ turn.handled.sessions.get? client = none) ∨
      ∃ client payload opened session,
        turn.event = .fromClient client payload opened ∧
          turn.handled.sessions.get? client = some session ∧
          turn.forwarded = [(session.socket, payload)] := by
  obtain ⟨effects, hhandling, _, hforwarded, _⟩ := turn.handling
  rw [hforwarded]
  generalize turn.event = event at hhandling hsize ⊢
  generalize turn.handled.sessions = after at hhandling ⊢
  cases hhandling with
  | @known source payload opened session hsession =>
      have hpayload : payload.take receiveLimit = payload :=
        List.take_of_length_le hsize
      right
      refine ⟨source, payload, opened, _, rfl,
        SessionTable.get?_touch_self hsession _, ?_⟩
      rw [hpayload]
      rfl
  | @opened source payload socket hnone =>
      have hpayload : payload.take receiveLimit = payload :=
        List.take_of_length_le hsize
      right
      refine ⟨source, payload, some socket, _, rfl,
        SessionTable.get?_touch_self
          (SessionTable.get?_insert_self _ source socket _) _, ?_⟩
      rw [hpayload]
      rfl
  | refused hnone =>
      left
      refine ⟨rfl, ?_⟩
      intro client payload opened hevent
      cases hevent
      exact ⟨rfl, hnone⟩
  | returned howner => exact Or.inl ⟨rfl, by simp⟩
  | apart hevent heffects =>
      left
      refine
        ⟨filterMap_pongs Effect.sentOnSession? (fun _ => rfl) heffects, ?_⟩
      intro client payload opened hclient
      exact absurd hclient (hevent client payload opened)

end Turn

/-! ## A whole run -/

/-- The private sockets that were opened, in the order of the turns. -/
def openings (turns : List Turn) : List Assignment :=
  turns.flatMap Turn.opened

theorem Accounts.step {log : List Assignment} {engine next : UdpEngine}
    {now : Instant} {event : Event} (haccounts : Accounts log engine.sessions)
    (hstep : (engine.step now event).1 = .ok next) :
    Accounts (log ++ Turn.opened ⟨engine, now, event⟩) next.sessions := by
  have hafter :
      Accounts (log ++ Turn.opened ⟨engine, now, event⟩)
        (engine.handle now event).1.sessions :=
    Turn.accounts_handled ⟨engine, now, event⟩ haccounts
  rcases sessions_of_step_eq_ok hstep with hsame | hswept
  · rw [hsame]
    exact hafter
  · rw [hswept]
    exact hafter.sweep now

theorem Accounts.run {log : List Assignment} {engine final : UdpEngine}
    {events : List (Instant × Event)}
    (haccounts : Accounts log engine.sessions)
    (hrun : (engine.run events).1 = .ok final) :
    Accounts (log ++ openings (engine.turns events)) final.sessions := by
  induction events generalizing log engine with
  | nil =>
      cases hrun
      simpa [turns, openings] using haccounts
  | cons entry later ih =>
      obtain ⟨middle, effects, hstep, hmiddle⟩ := exists_of_run_cons hrun
      have hstepped := haccounts.step (congrArg Prod.fst hstep)
      rw [turns_cons_of_ok hstep, openings, List.flatMap_cons,
        ← List.append_assoc]
      exact ih hstepped hmiddle

theorem accounts_of_mem_turns {log : List Assignment} {engine : UdpEngine}
    {events : List (Instant × Event)} {turn : Turn}
    (haccounts : Accounts log engine.sessions)
    (hturn : turn ∈ engine.turns events) :
    ∃ earlier, Accounts earlier turn.before.sessions ∧
      earlier ++ turn.opened <+: log ++ openings (engine.turns events) := by
  induction events generalizing log engine with
  | nil => simp [turns] at hturn
  | cons entry later ih =>
      obtain ⟨now, event⟩ := entry
      simp only [turns, openings, List.flatMap_cons]
      rw [turns, List.mem_cons] at hturn
      rw [← List.append_assoc]
      rcases hturn with rfl | hlater
      · exact ⟨log, haccounts, List.prefix_append _ _⟩
      · cases hstep : (engine.step now event).1 with
        | error error => simp [hstep] at hlater
        | ok next =>
            rw [hstep] at hlater
            exact ih (haccounts.step hstep) hlater

section FreshSockets

variable {log : List Assignment} {table : SessionTable}

private theorem eq_of_socket_eq
    (hfresh : (log.map Assignment.socket).Nodup)
    {left right : Assignment} (hleft : left ∈ log) (hright : right ∈ log)
    (hsocket : left.socket = right.socket) : left = right :=
  List.inj_on_of_nodup_map hfresh hleft hright hsocket

/-- A private socket is that of one source only. -/
theorem eq_of_get?_socket_eq
    (hfresh : (log.map Assignment.socket).Nodup)
    (hknown : ∀ assignment ∈ table.assignments, assignment ∈ log)
    {client other : SocketAddress} {session held : Session}
    (hsession : table.get? client = some session)
    (hheld : table.get? other = some held)
    (hsocket : held.socket = session.socket) : other = client := by
  have hclient :=
    hknown _ (SessionTable.mem_assignments_of_get? hsession)
  have hother := hknown _ (SessionTable.mem_assignments_of_get? hheld)
  have hsame := eq_of_socket_eq hfresh hother hclient hsocket
  exact congrArg Assignment.source hsame

/-- What a turn sends on a private socket came from the source for which the
socket was opened. -/
theorem Turn.forwardedOn_sublist {turn : Turn}
    (hfresh : (log.map Assignment.socket).Nodup)
    (hknown :
      ∀ assignment ∈ turn.handled.sessions.assignments, assignment ∈ log)
    (hsize : turn.event.size ≤ receiveLimit)
    {assignment : Assignment} (hmem : assignment ∈ log) :
    (turn.forwardedOn assignment.socket).Sublist
      (turn.arrivedFrom assignment.source) := by
  rcases turn.forwarded_cases hsize with
    ⟨hnothing, _⟩ | ⟨client, payload, opened, session, hevent, hsession, hsent⟩
  · simp [Turn.forwardedOn, hnothing]
  · by_cases hsocket : session.socket = assignment.socket
    · have hheld :=
        hknown _ (SessionTable.mem_assignments_of_get? hsession)
      have hsame := eq_of_socket_eq hfresh hheld hmem hsocket
      have hsource : client = assignment.source :=
        congrArg Assignment.source hsame
      have hforwarded :
          turn.forwardedOn assignment.socket = [payload] := by
        rw [Turn.forwardedOn, hsent, List.filter_singleton]
        simp [hsocket]
      have harrived : turn.arrivedFrom assignment.source = [payload] := by
        rw [Turn.arrivedFrom, hevent]
        exact if_pos hsource
      rw [hforwarded, harrived]
    · simp [Turn.forwardedOn, hsent, hsocket]

end FreshSockets

/-- The traffic of each client is kept apart from that of all others. -/
structure Isolates (turns : List Turn) : Prop where
  /-- What the public socket sends to a client was received, in the same
  turn, on the private socket that the client alone holds. -/
  returned : ∀ turn ∈ turns, turn.returned = [] ∨
    ∃ client session payload,
      turn.event = .fromSession session.socket payload ∧
        turn.before.sessions.get? client = some session ∧
        (∀ other held, turn.before.sessions.get? other = some held →
          held.socket = session.socket → other = client) ∧
        turn.returned = [(client, payload)]
  /-- Nothing but a datagram of a client is sent on a private socket.  It is
  sent on that of the client's session, if there is one then; the socket leads
  to the responder if it was the first of all to be opened.  (The count of
  sockets has 64 bits.) -/
  forwarded : ∀ turn ∈ turns,
    (turn.forwarded = [] ∧
        ∀ client payload opened,
          turn.event = .fromClient client payload opened →
            opened = none ∧ turn.handled.sessions.get? client = none) ∨
      ∃ client payload opened session index,
        turn.event = .fromClient client payload opened ∧
          turn.handled.sessions.get? client = some session ∧
          turn.forwarded = [(session.socket, payload)] ∧
          (openings turns)[index]? =
            some ⟨session.socket, client, session.route⟩ ∧
          (session.route = .keepalive ↔ index % UInt64.size = 0)
  /-- What is sent on a private socket arrived, in this order, from the source
  for which the socket was opened. -/
  inOrder : ∀ assignment ∈ openings turns,
    (turns.flatMap fun turn => turn.forwardedOn assignment.socket).Sublist
      (turns.flatMap fun turn => turn.arrivedFrom assignment.source)

/-- The turns of a run, as the log of all its openings sees them. -/
theorem isolates_of_accounts {turns : List Turn}
    (hsize : ∀ turn ∈ turns, turn.event.size ≤ receiveLimit)
    (hfresh : ((openings turns).map Assignment.socket).Nodup)
    (hlogged : ∀ turn ∈ turns, ∃ earlier,
      Accounts earlier turn.before.sessions ∧
        earlier ++ turn.opened <+: openings turns) :
    Isolates turns where
  returned := by
    intro turn hturn
    obtain ⟨earlier, haccounts, hprefix⟩ := hlogged turn hturn
    have hknown :
        ∀ assignment ∈ turn.before.sessions.assignments,
          assignment ∈ openings turns := by
      intro assignment hmem
      have hearlier := haccounts.held assignment hmem
      exact hprefix.subset (List.mem_append_left _ hearlier)
    rcases turn.returned_cases (hsize turn hturn) with
      hnothing | ⟨client, session, payload, hsession, hevent, hreturned⟩
    · exact Or.inl hnothing
    · right
      refine
        ⟨client, session, payload, hevent, hsession, ?_, hreturned⟩
      intro other held hheld hsocket
      exact eq_of_get?_socket_eq hfresh hknown hsession hheld hsocket
  forwarded := by
    intro turn hturn
    obtain ⟨earlier, haccounts, hprefix⟩ := hlogged turn hturn
    have hhandled := turn.accounts_handled haccounts
    rcases turn.forwarded_cases (hsize turn hturn) with
      hnothing | ⟨client, payload, opened, session, hevent, hsession, hsent⟩
    · exact Or.inl hnothing
    · right
      have hheld :=
        hhandled.held _ (SessionTable.mem_assignments_of_get? hsession)
      obtain ⟨index, hindex⟩ := List.mem_iff_getElem?.mp hheld
      have hopening :
          (openings turns)[index]? =
            some ⟨session.socket, client, session.route⟩ := by
        obtain ⟨later, hlater⟩ := hprefix
        have hbound := (List.getElem?_eq_some_iff.mp hindex).1
        rw [← hlater, List.getElem?_append_left hbound]
        exact hindex
      exact
        ⟨client, payload, opened, session, index, hevent, hsession, hsent,
          hopening, hhandled.routed index _ hindex⟩
  inOrder := by
    intro assignment hmem
    apply List.Sublist.flatMap_right
    intro turn hturn
    obtain ⟨earlier, haccounts, hprefix⟩ := hlogged turn hturn
    have hhandled := turn.accounts_handled haccounts
    have hknown :
        ∀ assignment ∈ turn.handled.sessions.assignments,
          assignment ∈ openings turns := by
      intro assignment hmem
      exact hprefix.subset (hhandled.held assignment hmem)
    exact turn.forwardedOn_sublist hfresh hknown (hsize turn hturn) hmem

/-- No datagram is longer than its length field can tell, and the system never
gives out a socket twice. -/
theorem run_isolates (now : Instant) (events : List (Instant × Event))
    (hsize : ∀ entry ∈ events, entry.2.size ≤ receiveLimit)
    (hfresh :
      ((((start now).1.run events).2.filterMap Effect.assignment?).map
        Assignment.socket).Nodup) :
    ((start now).1.run events).2 =
        ((start now).1.turns events).flatMap Turn.effects ∧
      Isolates ((start now).1.turns events) := by
  have heffects := effects_run (start now).1 events
  refine ⟨heffects, ?_⟩
  rw [heffects, List.filterMap_flatMap] at hfresh
  apply isolates_of_accounts
  · intro turn hturn
    exact hsize _ (mem_events_of_mem_turns hturn)
  · exact hfresh
  · intro turn hturn
    exact accounts_of_mem_turns accounts_empty hturn

/-- Two clients, a reply to the second, and a sweep after which the first
client opens another socket. -/
def visits : List (Instant × Event) :=
  let first : SocketAddress := .v4 ⟨⟨198, 51, 100, 1⟩, 5000⟩
  let second : SocketAddress := .v4 ⟨⟨198, 51, 100, 2⟩, 5000⟩
  let late : Instant := Duration.seconds 31
  [(0, .fromClient first [1] (some 10)),
    (0, .fromClient second [2] (some 11)),
    (0, .fromSession 11 [3]),
    (late, .tick),
    (late, .fromClient first [4] (some 12)),
    (late, .fromSession 12 [5])]

theorem run_isolates_visits :
    (∀ entry ∈ visits, entry.2.size ≤ receiveLimit) ∧
      ((((start 0).1.run visits).2.filterMap Effect.assignment?).map
        Assignment.socket).Nodup ∧
      Isolates ((start 0).1.turns visits) := by
  have hsize : ∀ entry ∈ visits, entry.2.size ≤ receiveLimit := by decide
  have hfresh :
      ((((start 0).1.run visits).2.filterMap Effect.assignment?).map
        Assignment.socket).Nodup := by
    decide
  exact
    ⟨hsize, hfresh, (run_isolates 0 visits hsize hfresh).2⟩

end UdpEngine

end Pinhole
