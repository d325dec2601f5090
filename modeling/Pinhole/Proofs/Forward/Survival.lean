import Pinhole.Proofs.Forward.Lifetime

/-!
# A mapping that works is not given up

The keepalive goes round a circuit: a ping goes through the mapping to the
public socket and on the private socket of its session to the responder, and
the pong goes the same way back.  Here an engine runs within such a circuit,
which neither loses nor delays anything.  All else that reaches the engine is
arbitrary.

The session of the pings would be swept once it was idle for too long, and the
sweeper looks before a ping that is due is sent.  What saves it is that the
engine has had a turn within a second of the ping before and has the next one
soon enough after it.  The ticks of the engine see to that, unless the engine
itself is held up.
-/

namespace Pinhole

namespace UdpEngine

/-! ## The circuit of the keepalive -/

structure Circuit where
  /-- Where the mapping relays the pings from. -/
  relay : SocketAddress
  /-- The private socket that is opened for the pings. -/
  socket : SocketId
  /-- The endpoint of that socket, as the responder sees it. -/
  endpoint : Endpoint
deriving DecidableEq, Repr

/-- A datagram of the keepalive, by the socket to which it is under way. -/
inductive Hop where
  | toPublic (payload : Bytes)
  | toResponder (payload : Bytes)
  | toSession (payload : Bytes)
  | toProber (payload : Bytes)
deriving DecidableEq, Repr

/-- An engine within a circuit. -/
structure System where
  engine : UdpEngine
  /-- When the engine had its last turn. -/
  now : Instant
  underway : List Hop
  /-- Whether anything has reached the public socket. -/
  reached : Bool

def Event.isPublic : Event → Bool
  | .fromClient .. => true
  | _ => false

namespace Circuit

variable (circuit : Circuit)

/-- Where the circuit takes what the engine sends. -/
def carried? : Effect → Option Hop
  | .sendPing => some (.toPublic ping)
  | .sendOnSession socket payload =>
      if socket = circuit.socket then some (.toResponder payload) else none
  | .sendPong prober =>
      if prober = circuit.endpoint then some (.toSession pong) else none
  | .sendToClient client payload =>
      if client = circuit.relay then some (.toProber payload) else none
  | .connectSession .. | .closeSession _ => none

/-- What the circuit delivers in an event. -/
def delivered? : Event → Option Hop
  | .fromClient source payload _ =>
      if source = circuit.relay then some (.toPublic payload) else none
  | .atResponder sender payload =>
      if sender = circuit.endpoint then some (.toResponder payload) else none
  | .fromSession socket payload =>
      if socket = circuit.socket then some (.toSession payload) else none
  | .atProber payload => some (.toProber payload)
  | .readFailed | .tick => none

def remaining (underway : List Hop) (event : Event) : List Hop :=
  match circuit.delivered? event with
  | none => underway
  | some hop => underway.erase hop

/-- The private socket of the circuit is opened for the first datagram at the
public socket, which is a ping.  It is given out to nobody else, and a socket
for a ping can always be opened. -/
def Opens (reached : Bool) : Event → Prop
  | .fromClient source _ opened =>
      if reached then
        opened ≠ some circuit.socket ∧
          (source = circuit.relay → opened ≠ none)
      else source = circuit.relay ∧ opened = some circuit.socket
  | _ => True

/-- What can happen next.  Time passes only when nothing is under way. -/
structure Occurs (system : System) (now : Instant) (event : Event) :
    Prop where
  later : system.now ≤ now
  settled : system.underway = [] ∨ now = system.now
  underway : ∀ hop, circuit.delivered? event = some hop →
    hop ∈ system.underway
  opens : circuit.Opens system.reached event

def start (began : Instant) : System where
  engine := (UdpEngine.start began).1
  now := began
  underway := (UdpEngine.start began).2.filterMap circuit.carried?
  reached := false

def after (system : System) (now : Instant) (event : Event) : System where
  engine :=
    match (system.engine.step now event).1 with
    | .ok next => next
    | .error _ => system.engine
  now := now
  underway := circuit.remaining system.underway event ++
    (system.engine.step now event).2.filterMap circuit.carried?
  reached := system.reached || event.isPublic

/-- Events that can happen one after another. -/
def Course (system : System) : List (Instant × Event) → Prop
  | [] => True
  | (now, event) :: later =>
      circuit.Occurs system now event ∧
        Course (circuit.after system now event) later

instance (reached : Bool) :
    (event : Event) → Decidable (circuit.Opens reached event)
  | .fromClient .. => inferInstanceAs (Decidable (ite _ _ _))
  | .fromSession .. | .atResponder .. | .atProber _ | .readFailed | .tick =>
      isTrue trivial

instance (system : System) (now : Instant) (event : Event) :
    Decidable (circuit.Occurs system now event) :=
  decidable_of_iff
    (system.now ≤ now ∧ (system.underway = [] ∨ now = system.now) ∧
      (∀ hop, circuit.delivered? event = some hop → hop ∈ system.underway) ∧
      circuit.Opens system.reached event)
    ⟨fun ⟨hlater, hsettled, hunderway, hopens⟩ =>
        ⟨hlater, hsettled, hunderway, hopens⟩,
      fun ⟨hlater, hsettled, hunderway, hopens⟩ =>
        ⟨hlater, hsettled, hunderway, hopens⟩⟩

instance decidableCourse : (system : System) →
    (events : List (Instant × Event)) →
    Decidable (circuit.Course system events)
  | _, [] => isTrue trivial
  | system, (now, event) :: later =>
      let _ := decidableCourse (circuit.after system now event) later
      inferInstanceAs
        (Decidable
          (circuit.Occurs system now event ∧
            circuit.Course (circuit.after system now event) later))

/-! ## The session of the pings -/

/-- The table has the session of the pings, last active at a given instant,
and no other on its socket. -/
structure Held (table : SessionTable) (active : Instant) : Prop where
  session : table.get? circuit.relay =
    some ⟨circuit.socket, .keepalive, active⟩
  alone : ∀ source session, table.get? source = some session →
    session.socket = circuit.socket → source = circuit.relay

variable {circuit} {table : SessionTable} {active now : Instant}
  {source : SocketAddress} {socket : SocketId}

theorem held_insert_empty (circuit : Circuit) (now : Instant) :
    circuit.Held
      (SessionTable.empty.insert circuit.relay circuit.socket now).1 now where
  session := SessionTable.get?_insert_self _ _ _ now
  alone := by
    intro source session hsession _
    by_contra hsource
    rw [SessionTable.get?_insert_of_ne _ hsource] at hsession
    cases hsession

namespace Held

theorem touch (hheld : circuit.Held table active) (source : SocketAddress)
    (now : Instant) :
    circuit.Held (table.touch source now)
      (if source = circuit.relay then now else active) where
  session := by
    by_cases hsource : source = circuit.relay
    · subst hsource
      rw [if_pos rfl, SessionTable.get?_touch_self hheld.session]
    · rw [if_neg hsource,
        SessionTable.get?_touch_of_ne _ (Ne.symm hsource), hheld.session]
  alone := by
    intro other session hsession hsocket
    rw [SessionTable.get?_touch] at hsession
    by_cases hother : other = source
    · rw [if_pos hother] at hsession
      obtain ⟨before, hbefore, rfl⟩ := Option.map_eq_some_iff.mp hsession
      exact hheld.alone other before hbefore hsocket
    · rw [if_neg hother] at hsession
      exact hheld.alone other session hsession hsocket

theorem touch_relay (hheld : circuit.Held table active) (now : Instant) :
    circuit.Held (table.touch circuit.relay now) now := by
  have htouched := hheld.touch circuit.relay now
  rwa [if_pos rfl] at htouched

theorem touch_of_ne (hheld : circuit.Held table active)
    (hsource : source ≠ circuit.relay) (now : Instant) :
    circuit.Held (table.touch source now) active := by
  have htouched := hheld.touch source now
  rwa [if_neg hsource] at htouched

theorem insert (hheld : circuit.Held table active)
    (hsource : source ≠ circuit.relay) (hsocket : socket ≠ circuit.socket)
    (now : Instant) :
    circuit.Held (table.insert source socket now).1 active where
  session := by
    rw [SessionTable.get?_insert_of_ne _ (Ne.symm hsource), hheld.session]
  alone := by
    intro other session hsession hother
    by_cases hsame : other = source
    · subst hsame
      rw [SessionTable.get?_insert_self, Option.some.injEq] at hsession
      subst hsession
      exact absurd hother hsocket
    · rw [SessionTable.get?_insert_of_ne _ hsame] at hsession
      exact hheld.alone other session hsession hother

theorem not_isExpired (hidle : now ≤ active + Session.idleLimit)
    (socket : SocketId) (route : Route) :
    Session.isExpired ⟨socket, route, active⟩ now = false := by
  rw [Session.isExpired, Instant.since, decide_eq_false_iff_not, Nat.not_lt]
  exact Int.toNat_le.mpr (Int.sub_left_le_of_le_add hidle)

theorem sweep (hheld : circuit.Held table active)
    (hidle : now ≤ active + Session.idleLimit) :
    circuit.Held (table.sweep now).1 active where
  session := by
    rw [SessionTable.get?_sweep, hheld.session, Option.filter_some,
      not_isExpired hidle]
    rfl
  alone := by
    intro source session hsession hsocket
    rw [SessionTable.get?_sweep, Option.filter_eq_some_iff] at hsession
    exact hheld.alone source session hsession.1 hsocket

theorem socket_ne_of_mem_sweep (hheld : circuit.Held table active)
    (hidle : now ≤ active + Session.idleLimit)
    {entry : SocketAddress × Session} (hentry : entry ∈ (table.sweep now).2) :
    entry.2.socket ≠ circuit.socket := by
  intro hsocket
  obtain ⟨hmem, hexpired⟩ := List.mem_filter.mp hentry
  have hsession : table.get? entry.1 = some entry.2 :=
    SessionTable.get?_eq_some_iff.mpr hmem
  have hsource := hheld.alone entry.1 entry.2 hsession hsocket
  rw [hsource, hheld.session, Option.some.injEq] at hsession
  rw [← hsession, not_isExpired hidle] at hexpired
  cases hexpired

theorem owner?_iff (hheld : circuit.Held table active)
    (howner : table.owner? socket = some source) :
    socket = circuit.socket ↔ source = circuit.relay := by
  obtain ⟨session, hsession, rfl⟩ := SessionTable.get?_of_owner? howner
  constructor
  · exact hheld.alone source session hsession
  · rintro rfl
    rw [hheld.session, Option.some.injEq] at hsession
    rw [← hsession]

theorem owner?_socket (hheld : circuit.Held table active) :
    table.owner? circuit.socket = some circuit.relay := by
  cases howner : table.owner? circuit.socket with
  | some source => rw [(hheld.owner?_iff howner).mp rfl]
  | none =>
      rw [SessionTable.owner?, Option.map_eq_none_iff,
        List.find?_eq_none] at howner
      have hmem := SessionTable.get?_eq_some_iff.mp hheld.session
      have hother := howner _ hmem
      simp at hother

end Held

/-! ## One event -/

variable (circuit)

/-- What can be under way. -/
def hops (reached : Bool) : List Hop :=
  if reached then
    [.toPublic ping, .toResponder ping, .toSession pong, .toProber pong]
  else [.toPublic ping]

theorem mem_hops_iff {reached : Bool} {hop : Hop} :
    hop ∈ hops reached ↔
      hop = .toPublic ping ∨
        reached = true ∧
          (hop = .toResponder ping ∨ hop = .toSession pong ∨
            hop = .toProber pong) := by
  cases reached <;> simp [hops]

def Aside : Effect → Prop
  | .connectSession socket source _ =>
      socket ≠ circuit.socket ∧ source ≠ circuit.relay
  | .sendOnSession socket _ | .closeSession socket => socket ≠ circuit.socket
  | .sendToClient client _ => client ≠ circuit.relay
  | .sendPong prober => prober ≠ circuit.endpoint
  | .sendPing => False

/-- What an event does to the sessions, and its effects.  It passes a datagram
of the keepalive on, or it has nothing to do with the keepalive. -/
inductive Passes (table : SessionTable) (now : Instant) :
    Event → SessionTable → List Effect → Prop
  | opened (hempty : table = .empty) :
      Passes table now (.fromClient circuit.relay ping (some circuit.socket))
        ((SessionTable.empty.insert circuit.relay circuit.socket now).1.touch
          circuit.relay now)
        [.connectSession circuit.socket circuit.relay .keepalive,
          .sendOnSession circuit.socket ping]
  | forwarded {active : Instant} {opened : Option SocketId}
      (hheld : circuit.Held table active) :
      Passes table now (.fromClient circuit.relay ping opened)
        (table.touch circuit.relay now) [.sendOnSession circuit.socket ping]
  | answered :
      Passes table now (.atResponder circuit.endpoint ping) table
        [.sendPong circuit.endpoint]
  | returned {active : Instant} (hheld : circuit.Held table active) :
      Passes table now (.fromSession circuit.socket pong)
        (table.touch circuit.relay now) [.sendToClient circuit.relay pong]
  | heard : Passes table now (.atProber pong) table []
  | aside {event : Event} {after : SessionTable} {effects : List Effect}
      (hnone : circuit.delivered? event = none)
      (hempty : table = .empty → event.isPublic = false ∧ after = .empty)
      (hafter : ∀ active, circuit.Held table active →
        circuit.Held after active)
      (haside : ∀ effect ∈ effects, circuit.Aside effect) :
      Passes table now event after effects

variable {circuit} {engine : UdpEngine} {event : Event} {reached : Bool}

theorem Held.ne_empty (hheld : circuit.Held table active) :
    table ≠ .empty := by
  rintro rfl
  cases hheld.session

theorem Held.passes_fromClient
    (hheld : circuit.Held engine.sessions active) {payload : Bytes}
    {opened : Option SocketId} (hsource : source ≠ circuit.relay)
    (hopened : opened ≠ some circuit.socket) :
    circuit.Passes engine.sessions now (.fromClient source payload opened)
      (engine.handle now (.fromClient source payload opened)).1.sessions
      (engine.handle now (.fromClient source payload opened)).2 := by
  have hnone :
      circuit.delivered? (.fromClient source payload opened) = none :=
    if_neg hsource
  have hempty {outcome : Prop} (hempty : engine.sessions = .empty) : outcome :=
    absurd hempty hheld.ne_empty
  cases hsession : engine.sessions.get? source with
  | some session =>
      have hsocket : session.socket ≠ circuit.socket :=
        fun hsocket => hsource (hheld.alone source session hsession hsocket)
      simp only [handle, hsession, forward]
      refine .aside hnone hempty ?_ (by simpa [Aside] using hsocket)
      exact fun active hheld => hheld.touch_of_ne hsource now
  | none =>
      cases opened with
      | none =>
          simp only [handle, hsession]
          exact .aside hnone hempty (fun _ => id) (by simp)
      | some socket =>
          have hsocket : socket ≠ circuit.socket :=
            fun hsocket => hopened (congrArg some hsocket)
          simp only [handle, hsession, forward]
          refine .aside hnone hempty ?_ (by simp [Aside, hsocket, hsource])
          intro active hheld
          exact (hheld.insert hsource hsocket now).touch_of_ne hsource now

theorem passes_fromSession
    (hempty : reached = false → engine.sessions = .empty)
    (hheld : reached = true → ∃ active, circuit.Held engine.sessions active)
    (hsocket : socket ≠ circuit.socket) {payload : Bytes} :
    circuit.Passes engine.sessions now (.fromSession socket payload)
      (engine.handle now (.fromSession socket payload)).1.sessions
      (engine.handle now (.fromSession socket payload)).2 := by
  have hnone : circuit.delivered? (.fromSession socket payload) = none :=
    if_neg hsocket
  cases howner : engine.sessions.owner? socket with
  | none =>
      simp only [handle, howner]
      exact .aside hnone (⟨rfl, ·⟩) (fun _ => id) (by simp)
  | some source =>
      cases reached with
      | false =>
          rw [hempty rfl] at howner
          cases howner
      | true =>
          obtain ⟨active, hheld⟩ := hheld rfl
          have hsource : source ≠ circuit.relay :=
            fun hsource => hsocket ((hheld.owner?_iff howner).mpr hsource)
          simp only [handle, howner]
          refine .aside hnone (fun hempty => absurd hempty hheld.ne_empty) ?_
            (by simpa [Aside] using hsource)
          exact fun active hheld => hheld.touch_of_ne hsource now

theorem passes_handle
    (hempty : reached = false → engine.sessions = .empty)
    (hheld : reached = true → ∃ active, circuit.Held engine.sessions active)
    (hhop : ∀ hop, circuit.delivered? event = some hop →
      hop ∈ hops reached)
    (hopens : circuit.Opens reached event) :
    circuit.Passes engine.sessions now event
      (engine.handle now event).1.sessions (engine.handle now event).2 := by
  cases event with
  | fromClient source payload opened =>
      by_cases hsource : source = circuit.relay
      · subst hsource
        obtain rfl : payload = ping := by
          simpa [mem_hops_iff] using hhop _ (if_pos rfl)
        cases reached with
        | false =>
            obtain ⟨_, rfl⟩ := hopens
            simp only [handle, forward, hempty rfl]
            exact .opened rfl
        | true =>
            obtain ⟨active, hheld⟩ := hheld rfl
            simp only [handle, hheld.session, forward]
            exact .forwarded hheld
      · cases reached with
        | false => exact absurd hopens.1 hsource
        | true =>
            obtain ⟨active, hheld⟩ := hheld rfl
            exact hheld.passes_fromClient hsource hopens.1
  | fromSession socket payload =>
      by_cases hsocket : socket = circuit.socket
      · subst hsocket
        obtain ⟨rfl, rfl⟩ : reached = true ∧ payload = pong := by
          simpa [mem_hops_iff] using hhop _ (if_pos rfl)
        obtain ⟨active, hheld⟩ := hheld rfl
        simp only [handle, hheld.owner?_socket]
        exact .returned hheld
      · exact passes_fromSession hempty hheld hsocket
  | atResponder sender payload =>
      by_cases hsender : sender = circuit.endpoint
      · subst hsender
        obtain ⟨_, rfl⟩ : reached = true ∧ payload = ping := by
          simpa [mem_hops_iff] using hhop _ (if_pos rfl)
        exact .answered
      · simp only [handle]
        split
        · exact .aside (if_neg hsender) (⟨rfl, ·⟩) (fun _ => id)
            (by simpa [Aside] using hsender)
        · exact .aside (if_neg hsender) (⟨rfl, ·⟩) (fun _ => id) (by simp)
  | atProber payload =>
      obtain ⟨_, rfl⟩ : reached = true ∧ payload = pong := by
        simpa [mem_hops_iff] using hhop _ rfl
      exact .heard
  | readFailed => exact .aside rfl (⟨rfl, ·⟩) (fun _ => id) (by simp [handle])
  | tick => exact .aside rfl (⟨rfl, ·⟩) (fun _ => id) (by simp [handle])

theorem Aside.carried? {effect : Effect} (haside : circuit.Aside effect) :
    circuit.carried? effect = none := by
  cases effect with
  | connectSession => rfl
  | closeSession => rfl
  | sendOnSession => exact if_neg haside
  | sendToClient => exact if_neg haside
  | sendPong => exact if_neg haside
  | sendPing => exact haside.elim

theorem filterMap_carried?_of_aside {effects : List Effect}
    (haside : ∀ effect ∈ effects, circuit.Aside effect) :
    effects.filterMap circuit.carried? = [] := by
  rw [List.filterMap_eq_nil_iff]
  exact fun effect hmem => (haside effect hmem).carried?

section Passes

variable {after : SessionTable} {effects : List Effect}

/-- A datagram of the keepalive goes one hop further, unless it was the pong
at the prober. -/
theorem Passes.hop_cases
    (hpasses : circuit.Passes table now event after effects) :
    (circuit.delivered? event = none ∧
        effects.filterMap circuit.carried? = [] ∧ event.marks = []) ∨
      (circuit.delivered? event = some (.toProber pong) ∧
        effects.filterMap circuit.carried? = [] ∧ event.marks = [.pong]) ∨
      ∃ hop further,
        circuit.delivered? event = some hop ∧
          effects.filterMap circuit.carried? = [further] ∧
          event.marks = [] ∧ further ∈ hops true := by
  cases hpasses with
  | opened hempty =>
      right; right
      exact ⟨.toPublic ping, .toResponder ping, by simp [delivered?],
        by simp [List.filterMap_cons, carried?], rfl, by simp [hops]⟩
  | forwarded hheld =>
      right; right
      exact ⟨.toPublic ping, .toResponder ping, by simp [delivered?],
        by simp [carried?], rfl, by simp [hops]⟩
  | answered =>
      right; right
      exact ⟨.toResponder ping, .toSession pong, by simp [delivered?],
        by simp [carried?], rfl, by simp [hops]⟩
  | returned hheld =>
      right; right
      exact ⟨.toSession pong, .toProber pong, by simp [delivered?],
        by simp [carried?], rfl, by simp [hops]⟩
  | heard =>
      right; left
      exact ⟨rfl, rfl, rfl⟩
  | aside hnone hempty hafter haside =>
      left
      refine ⟨hnone, filterMap_carried?_of_aside haside, if_neg ?_⟩
      rintro rfl
      cases hnone

theorem Passes.held (hpasses : circuit.Passes table now event after effects)
    (hheld : circuit.Held table active) :
    circuit.Held after now ∨
      circuit.Held after active ∧
        circuit.delivered? event ≠ some (.toPublic ping) := by
  cases hpasses with
  | opened hempty => exact absurd hempty hheld.ne_empty
  | forwarded hheld => exact .inl (hheld.touch_relay now)
  | answered => exact .inr ⟨hheld, by simp [delivered?]⟩
  | returned hheld => exact .inl (hheld.touch_relay now)
  | heard => exact .inr ⟨hheld, by simp [delivered?]⟩
  | aside hnone hempty hafter haside =>
      exact .inr ⟨hafter active hheld, by simp [hnone]⟩

theorem Passes.of_empty
    (hpasses : circuit.Passes .empty now event after effects) :
    event.isPublic = false ∧ after = .empty ∨
      event.isPublic = true ∧ circuit.Held after now := by
  cases hpasses with
  | opened hempty =>
      right
      exact ⟨rfl, (circuit.held_insert_empty now).touch_relay now⟩
  | forwarded hheld => exact absurd rfl hheld.ne_empty
  | answered => exact .inl ⟨rfl, rfl⟩
  | returned hheld => exact absurd rfl hheld.ne_empty
  | heard => exact .inl ⟨rfl, rfl⟩
  | aside hnone hempty hafter haside => exact .inl (hempty rfl)

/-! ## What stays under way -/

theorem isPublic_of_delivered? {payload : Bytes}
    (hdelivered : circuit.delivered? event = some (.toPublic payload)) :
    event.isPublic = true := by
  cases event with
  | fromClient => rfl
  | fromSession => simp [delivered?] at hdelivered
  | atResponder => simp [delivered?] at hdelivered
  | atProber => simp [delivered?] at hdelivered
  | readFailed => simp [delivered?] at hdelivered
  | tick => simp [delivered?] at hdelivered

theorem mem_hops_or {hop : Hop} (hmem : hop ∈ hops reached) (more : Bool) :
    hop ∈ hops (reached || more) := by
  rw [mem_hops_iff] at hmem ⊢
  rcases hmem with hping | ⟨rfl, hother⟩
  · exact .inl hping
  · exact .inr ⟨rfl, hother⟩

theorem mem_of_mem_remaining {underway : List Hop} {hop : Hop}
    (hmem : hop ∈ circuit.remaining underway event) : hop ∈ underway := by
  unfold remaining at hmem
  split at hmem
  · exact hmem
  · exact List.mem_of_mem_erase hmem

variable {underway : List Hop} {history : List Mark}

theorem Passes.mem_hops
    (hpasses : circuit.Passes table now event after effects)
    (hhops : ∀ hop ∈ underway, hop ∈ hops reached)
    (hmem : ∀ hop, circuit.delivered? event = some hop → hop ∈ underway) :
    ∀ hop ∈ circuit.remaining underway event ++
        effects.filterMap circuit.carried?,
      hop ∈ hops (reached || event.isPublic) := by
  intro hop hhop
  rcases List.mem_append.mp hhop with hold | hnew
  · exact mem_hops_or (hhops hop (mem_of_mem_remaining hold)) _
  · rcases hpasses.hop_cases with ⟨_, hcarried, _⟩ | ⟨_, hcarried, _⟩ |
      ⟨before, further, hsome, hcarried, _, hfurther⟩
    · simp [hcarried] at hnew
    · simp [hcarried] at hnew
    · rw [hcarried, List.mem_singleton] at hnew
      subst hnew
      have hreached : (reached || event.isPublic) = true := by
        have hbefore := hhops before (hmem before hsome)
        rw [mem_hops_iff] at hbefore
        rcases hbefore with rfl | ⟨rfl, _⟩
        · rw [isPublic_of_delivered? hsome, Bool.or_true]
        · rfl
      rwa [hreached]

theorem Passes.unanswered_le
    (hpasses : circuit.Passes table now event after effects)
    (hfew : unanswered history ≤ underway.length)
    (hmem : ∀ hop, circuit.delivered? event = some hop → hop ∈ underway) :
    unanswered (history ++ event.marks) ≤
      (circuit.remaining underway event ++
        effects.filterMap circuit.carried?).length := by
  rcases hpasses.hop_cases with ⟨hnone, hcarried, hmarks⟩ |
    ⟨_, _, hmarks⟩ | ⟨hop, further, hsome, hcarried, hmarks, _⟩
  · rw [remaining, hnone, hcarried, hmarks, List.append_nil,
      List.append_nil]
    exact hfew
  · rw [hmarks, unanswered_append_pong]
    exact Nat.zero_le _
  · have hpos := List.length_pos_of_mem (hmem hop hsome)
    rw [remaining, hsome, hcarried, hmarks, List.append_nil,
      List.length_append, List.length_erase_of_mem (hmem hop hsome),
      List.length_singleton]
    omega

end Passes

/-! ## One turn -/

/-- A turn leaves the session of the pings alone and passes them on to the
responder. -/
structure Spares (turn : Turn) : Prop where
  kept : .closeSession circuit.socket ∉ turn.effects
  passed : ∀ payload opened,
    turn.event = .fromClient circuit.relay payload opened →
      turn.forwarded = [(circuit.socket, payload)]
  connected : ∀ socket source route,
    .connectSession socket source route ∈ turn.effects →
      (socket = circuit.socket ↔ source = circuit.relay) ∧
        (source = circuit.relay → route = .keepalive)

section Passes

variable {after : SessionTable} {effects : List Effect}

theorem Passes.closeSession_notMem
    (hpasses : circuit.Passes table now event after effects) :
    .closeSession circuit.socket ∉ effects := by
  intro hmem
  cases hpasses with
  | opened hempty => simp at hmem
  | forwarded hheld => simp at hmem
  | answered => simp at hmem
  | returned hheld => simp at hmem
  | heard => simp at hmem
  | aside hnone hempty hafter haside => exact haside _ hmem rfl

theorem Passes.connected
    (hpasses : circuit.Passes table now event after effects) {route : Route}
    (hmem : .connectSession socket source route ∈ effects) :
    (socket = circuit.socket ↔ source = circuit.relay) ∧
      (source = circuit.relay → route = .keepalive) := by
  cases hpasses with
  | opened hempty =>
      obtain ⟨rfl, rfl, rfl⟩ :
          socket = circuit.socket ∧ source = circuit.relay ∧
            route = .keepalive := by
        simpa using hmem
      simp
  | forwarded hheld => simp at hmem
  | answered => simp at hmem
  | returned hheld => simp at hmem
  | heard => simp at hmem
  | aside hnone hempty hafter haside =>
      obtain ⟨hsocket, hsource⟩ := haside _ hmem
      simp [hsocket, hsource]

theorem Passes.sentOnSession {payload : Bytes} {opened : Option SocketId}
    (hpasses : circuit.Passes table now
      (.fromClient circuit.relay payload opened) after effects) :
    effects.filterMap Effect.sentOnSession? = [(circuit.socket, payload)] := by
  cases hpasses with
  | opened hempty => rfl
  | forwarded hheld => rfl
  | aside hnone hempty hafter haside => simp [delivered?] at hnone

end Passes

theorem Held.sweepIfDue (hheld : circuit.Held engine.sessions active)
    (hidle : now ≤ active + Session.idleLimit) :
    circuit.Held (engine.sweepIfDue now).1.sessions active ∧
      ∀ effect ∈ (engine.sweepIfDue now).2, circuit.Aside effect := by
  unfold UdpEngine.sweepIfDue
  dsimp only
  split
  · refine ⟨hheld.sweep hidle, ?_⟩
    intro effect hmem
    obtain ⟨entry, hentry, rfl⟩ := List.mem_map.mp hmem
    exact hheld.socket_ne_of_mem_sweep hidle hentry
  · exact ⟨hheld, by simp⟩

theorem sweepIfDue_of_empty (hempty : engine.sessions = .empty) :
    (engine.sweepIfDue now).1.sessions = .empty ∧
      (engine.sweepIfDue now).2 = [] := by
  unfold UdpEngine.sweepIfDue
  dsimp only
  split
  · rw [hempty]
    exact ⟨rfl, rfl⟩
  · exact ⟨hempty, rfl⟩

section Turn

variable {next : UdpEngine} {effects : List Effect}

theorem filterMap_carried?_of_goesOn
    (hgoes : GoesOn engine now event next effects)
    (hswept : ∀ effect ∈ ((engine.handle now event).1.sweepIfDue now).2,
      circuit.Aside effect) :
    effects.filterMap circuit.carried? =
      (engine.handle now event).2.filterMap circuit.carried? ++
        if (engine.pingTimer.poll now).1 then [.toPublic ping] else [] := by
  rw [hgoes.effects, List.filterMap_append, List.filterMap_append,
    filterMap_carried?_of_aside hswept, List.append_nil]
  split <;> rfl

theorem spares_of_goesOn
    (hstep : engine.step now event = (.ok next, effects))
    (hpasses : circuit.Passes engine.sessions now event
      (engine.handle now event).1.sessions (engine.handle now event).2)
    (hswept : ∀ effect ∈ ((engine.handle now event).1.sweepIfDue now).2,
      circuit.Aside effect) :
    circuit.Spares ⟨engine, now, event⟩ := by
  have heffects : Turn.effects ⟨engine, now, event⟩ = effects := by
    simp only [Turn.effects, hstep]
  have hpinged :
      ∀ effect ∈ (if (engine.pingTimer.poll now).1 then
        [Effect.sendPing] else []), effect = .sendPing := by
    split <;> simp
  have hcases : ∀ effect ∈ effects,
      effect ∈ (engine.handle now event).2 ∨ circuit.Aside effect ∨
        effect = .sendPing := by
    intro effect hmem
    rw [(goesOn_of_step hstep).effects, List.mem_append,
      List.mem_append] at hmem
    rcases hmem with (hhandled | hmem) | hping
    · exact .inl hhandled
    · exact .inr (.inl (hswept effect hmem))
    · exact .inr (.inr (hpinged effect hping))
  constructor
  case kept =>
    rw [heffects]
    intro hmem
    rcases hcases _ hmem with hhandled | haside | hping
    · exact hpasses.closeSession_notMem hhandled
    · exact haside rfl
    · cases hping
  case passed =>
    rintro payload opened hevent
    dsimp only at hevent
    subst hevent
    rw [Turn.forwarded, Turn.effects, filterMap_step _ (fun _ => rfl) rfl]
    exact hpasses.sentOnSession
  case connected =>
    rw [heffects]
    intro socket source route hmem
    rcases hcases _ hmem with hhandled | haside | hping
    · exact hpasses.connected hhandled
    · obtain ⟨hsocket, hsource⟩ := haside
      simp [hsocket, hsource]
    · cases hping

end Turn

/-! ## The system stays healthy -/

/-- How long the engine can go without a turn.  The turn before may have come
almost a second after the last ping, and a session may be idle for thirty. -/
def patience : Duration := .seconds 29

variable (circuit) in
/-- No more pings are unanswered than datagrams are under way, and the session
of the pings was active when the last ping came round. -/
structure Healthy (system : System) : Prop where
  counts : ∃ history, Counts history system.engine ∧
    unanswered history ≤ system.underway.length
  period : system.engine.pingTimer.period = pingInterval
  upcoming : system.now < system.engine.pingTimer.next
  soon : system.engine.pingTimer.next ≤ system.now + pingInterval
  hops : ∀ hop ∈ system.underway, hop ∈ hops system.reached
  unreached : system.reached = false → system.engine.sessions = .empty
  reached : system.reached = true → ∃ active,
    circuit.Held system.engine.sessions active ∧
      system.now ≤ active + Session.idleLimit ∧
      (system.engine.pingTimer.next ≤ active + pingInterval ∨
        .toPublic ping ∈ system.underway)

theorem healthy_start (began : Instant) :
    circuit.Healthy (circuit.start began) where
  counts := ⟨[], counts_start began, Nat.zero_le _⟩
  period := rfl
  upcoming := Int.lt_add_of_pos_right began (by decide)
  soon := Int.le_refl _
  hops := by
    have hunderway : (circuit.start began).underway =
        List.replicate 3 (.toPublic ping) := rfl
    intro hop hhop
    rw [hunderway] at hhop
    rw [List.eq_of_mem_replicate hhop]
    exact List.mem_singleton_self _
  unreached := fun _ => rfl
  reached := by simp [start]

section Step

variable {system : System}

theorem Healthy.held (hhealthy : circuit.Healthy system)
    (hoccurs : circuit.Occurs system now event)
    (hpace : now ≤ system.now + patience)
    (hreached : system.reached = true) :
    ∃ active, circuit.Held system.engine.sessions active ∧
      now ≤ active + Session.idleLimit ∧
      (system.engine.pingTimer.next ≤ active + pingInterval ∨
        .toPublic ping ∈ system.underway) := by
  obtain ⟨active, hheld, hidle, hfresh⟩ := hhealthy.reached hreached
  refine ⟨active, hheld, ?_, hfresh⟩
  rcases hoccurs.settled with hnothing | hnow
  -- Time may have passed, so the last ping has come round, and the turn before
  -- this one was earlier than the next ping.
  · have hrecent : system.engine.pingTimer.next ≤ active + pingInterval := by
      rcases hfresh with hrecent | hping
      · exact hrecent
      · simp [hnothing] at hping
    have hturn : system.now ≤ active + pingInterval :=
      Int.le_of_lt (Int.lt_of_lt_of_le hhealthy.upcoming hrecent)
    calc
      now ≤ system.now + patience := hpace
      _ ≤ active + pingInterval + patience := Int.add_le_add_right hturn _
      _ = active + Session.idleLimit := Int.add_assoc _ _ _
  · rwa [hnow]

theorem Healthy.underway_of_due (hhealthy : circuit.Healthy system)
    (hoccurs : circuit.Occurs system now event)
    (hdue : (system.engine.pingTimer.poll now).1 = true) :
    system.underway = [] := by
  rcases hoccurs.settled with hnothing | hnow
  · exact hnothing
  · rw [hnow, Periodic.poll_of_lt hhealthy.upcoming] at hdue
    cases hdue

theorem Healthy.passes (hhealthy : circuit.Healthy system)
    (hoccurs : circuit.Occurs system now event) :
    circuit.Passes system.engine.sessions now event
      (system.engine.handle now event).1.sessions
      (system.engine.handle now event).2 := by
  apply passes_handle hhealthy.unreached
  · intro hreached
    obtain ⟨active, hheld, _⟩ := hhealthy.reached hreached
    exact ⟨active, hheld⟩
  · intro hop hdelivered
    exact hhealthy.hops hop (hoccurs.underway hop hdelivered)
  · exact hoccurs.opens

theorem Healthy.handled (hhealthy : circuit.Healthy system)
    (hoccurs : circuit.Occurs system now event)
    (hpace : now ≤ system.now + patience) :
    ((system.reached || event.isPublic) = false ∧
        (system.engine.handle now event).1.sessions = .empty) ∨
      (system.reached || event.isPublic) = true ∧
        ∃ active,
          circuit.Held (system.engine.handle now event).1.sessions active ∧
            now ≤ active + Session.idleLimit ∧
            (active = now ∨
              system.engine.pingTimer.next ≤ active + pingInterval ∨
              .toPublic ping ∈
                circuit.remaining system.underway event) := by
  have hpasses := hhealthy.passes hoccurs
  have hnow : now ≤ now + Session.idleLimit :=
    Int.le_add_of_nonneg_right (by decide)
  cases hreached : system.reached with
  | false =>
      rw [hhealthy.unreached hreached] at hpasses
      rw [Bool.false_or]
      rcases hpasses.of_empty with hempty | ⟨hpublic, hheld⟩
      · exact .inl hempty
      · exact .inr ⟨hpublic, now, hheld, hnow, .inl rfl⟩
  | true =>
      right
      refine ⟨Bool.true_or _, ?_⟩
      obtain ⟨active, hheld, hidle, hfresh⟩ :=
        hhealthy.held hoccurs hpace hreached
      rcases hpasses.held hheld with hheld | ⟨hheld, hother⟩
      · exact ⟨now, hheld, hnow, .inl rfl⟩
      · refine ⟨active, hheld, hidle, .inr ?_⟩
        rcases hfresh with hrecent | hping
        · exact .inl hrecent
        · right
          unfold remaining
          split
          · exact hping
          · next hop hdelivered =>
              rw [List.mem_erase_of_ne]
              · exact hping
              · rintro rfl
                exact hother hdelivered

theorem unanswered_append_marks_le (history : List Mark) (event : Event) :
    unanswered (history ++ event.marks) ≤ unanswered history := by
  unfold Event.marks
  split
  · rw [unanswered_append_pong]
    exact Nat.zero_le _
  · rw [List.append_nil]

theorem Healthy.goes (hhealthy : circuit.Healthy system)
    (hoccurs : circuit.Occurs system now event) :
    ∃ history next effects,
      system.engine.step now event = (.ok next, effects) ∧
        Counts history next ∧
        unanswered history ≤
          (circuit.remaining system.underway event ++
            ((system.engine.handle now event).2.filterMap circuit.carried? ++
              if (system.engine.pingTimer.poll now).1 then
                [Hop.toPublic ping]
              else [])).length := by
  obtain ⟨history, hcounts, hfew⟩ := hhealthy.counts
  have hmarks :=
    (hhealthy.passes hoccurs).unanswered_le hfew hoccurs.underway
  have hfewer := unanswered_append_marks_le history event
  have hturn := hcounts.step now event
  unfold turnMarks at hturn
  rw [← List.append_assoc]
  by_cases hdue : (system.engine.pingTimer.poll now).1
  · rw [if_pos hdue, ← List.append_assoc, unanswered_append_ping] at hturn
    rw [if_pos hdue, List.length_append, List.length_singleton]
    rcases hturn with ⟨next, effects, hstep, hnext⟩ | ⟨hfive, _⟩
    · refine ⟨_, next, effects, hstep, hnext, ?_⟩
      rw [unanswered_append_ping]
      omega
    -- A ping is due only at rest, when none is unanswered.
    · rw [hhealthy.underway_of_due hoccurs hdue, List.length_nil] at hfew
      omega
  · rw [if_neg hdue, List.append_nil] at hturn
    rw [if_neg hdue, List.append_nil]
    rcases hturn with ⟨next, effects, hstep, hnext⟩ | ⟨hfive, _⟩
    · exact ⟨_, next, effects, hstep, hnext, hmarks⟩
    · have hbound := hcounts.few
      omega

theorem Healthy.swept (hhealthy : circuit.Healthy system)
    (hoccurs : circuit.Occurs system now event)
    (hpace : now ≤ system.now + patience) :
    ∀ effect ∈ ((system.engine.handle now event).1.sweepIfDue now).2,
      circuit.Aside effect := by
  rcases hhealthy.handled hoccurs hpace with ⟨_, hempty⟩ |
    ⟨_, active, hheld, hidle, _⟩
  · rw [(sweepIfDue_of_empty hempty).2]
    simp
  · exact (hheld.sweepIfDue hidle).2

theorem Healthy.after (hhealthy : circuit.Healthy system)
    (hoccurs : circuit.Occurs system now event)
    (hpace : now ≤ system.now + patience) :
    circuit.Healthy (circuit.after system now event) := by
  obtain ⟨history, next, effects, hstep, hcounts, hfew⟩ :=
    hhealthy.goes hoccurs
  have hgoes := goesOn_of_step hstep
  have hcarried :=
    filterMap_carried?_of_goesOn hgoes (hhealthy.swept hoccurs hpace)
  have hpositive : 0 < system.engine.pingTimer.period := by
    rw [hhealthy.period]
    decide
  have hsoon := hhealthy.soon
  rw [← hhealthy.period] at hsoon
  have htimer := Periodic.poll_next hpositive hsoon hoccurs.later
  rw [← hgoes.pingTimer, hhealthy.period] at htimer
  obtain ⟨hperiod, hupcoming, hsoon⟩ := htimer
  rw [Circuit.after, hstep, hcarried]
  constructor
  case counts => exact ⟨history, hcounts, hfew⟩
  case period => exact hperiod
  case upcoming => exact hupcoming
  case soon => exact hsoon
  case hops =>
    have hhops :=
      (hhealthy.passes hoccurs).mem_hops hhealthy.hops hoccurs.underway
    intro hop hhop
    dsimp only at hhop
    rw [← List.append_assoc, List.mem_append] at hhop
    rcases hhop with hold | hping
    · exact hhops hop hold
    · have hpublic : hop = .toPublic ping := by
        split at hping
        · exact List.mem_singleton.mp hping
        · cases hping
      exact mem_hops_iff.mpr (.inl hpublic)
  case unreached =>
    intro hreached
    dsimp only at hreached ⊢
    rcases hhealthy.handled hoccurs hpace with ⟨_, hempty⟩ |
      ⟨hother, _⟩
    · rw [hgoes.sessions, (sweepIfDue_of_empty hempty).1]
    · rw [hreached] at hother
      cases hother
  case reached =>
    intro hreached
    dsimp only at hreached ⊢
    rcases hhealthy.handled hoccurs hpace with ⟨hother, _⟩ |
      ⟨_, active, hheld, hidle, hfresh⟩
    · rw [hreached] at hother
      cases hother
    · rw [hgoes.sessions]
      refine ⟨active, (hheld.sweepIfDue hidle).1, hidle, ?_⟩
      rcases hfresh with rfl | hfresh
      · exact .inl hsoon
      · by_cases hnow : now < system.engine.pingTimer.next
        · rw [hgoes.pingTimer, Periodic.poll_of_lt hnow]
          rcases hfresh with hrecent | hping
          · exact .inl hrecent
          · exact .inr (List.mem_append_left _ hping)
        · right
          rw [Periodic.poll_of_le (Int.not_lt.mp hnow)]
          simp

end Step

/-! ## A whole run -/

variable (circuit) in
/-- The engine runs to the end of the events.  It keeps the session of the
pings from the first datagram on, and its pings come to the responder only. -/
structure Survives (engine : UdpEngine) (events : List (Instant × Event)) :
    Prop where
  running : ∃ next, (engine.run events).1 = .ok next ∧
    ∀ entry ∈ events, entry.2.isPublic = true →
      ∃ active, circuit.Held next.sessions active
  spared : ∀ turn ∈ engine.turns events, circuit.Spares turn

/-- The engine is never without a turn for too long. -/
def Prompt (began : Instant) (events : List (Instant × Event)) : Prop :=
  (began :: events.map Prod.fst).IsChain fun (earlier later : Instant) =>
    later ≤ earlier + patience

theorem Healthy.run {system : System} {events : List (Instant × Event)}
    (hhealthy : circuit.Healthy system)
    (hcourse : circuit.Course system events)
    (hprompt : Prompt system.now events) :
    (∃ next, (system.engine.run events).1 = .ok next ∧
        ((system.reached = true ∨
            ∃ entry ∈ events, entry.2.isPublic = true) →
          ∃ active, circuit.Held next.sessions active)) ∧
      ∀ turn ∈ system.engine.turns events, circuit.Spares turn := by
  induction events generalizing system with
  | nil =>
      refine ⟨⟨system.engine, rfl, ?_⟩, by simp [turns]⟩
      rintro (hreached | ⟨entry, hentry, _⟩)
      · obtain ⟨active, hheld, _⟩ := hhealthy.reached hreached
        exact ⟨active, hheld⟩
      · cases hentry
  | cons entry later ih =>
      obtain ⟨now, event⟩ := entry
      obtain ⟨hoccurs, hlater⟩ := hcourse
      obtain ⟨hpace, hprompt⟩ := List.isChain_cons_cons.mp hprompt
      obtain ⟨_, next, effects, hstep, _⟩ := hhealthy.goes hoccurs
      have hengine : (circuit.after system now event).engine = next := by
        rw [Circuit.after, hstep]
      obtain ⟨⟨final, hrun, hheld⟩, hspared⟩ :=
        ih (hhealthy.after hoccurs hpace) hlater hprompt
      rw [hengine] at hrun hspared
      constructor
      · refine ⟨final, ?_, ?_⟩
        · rw [run_cons_of_ok hstep]
          exact hrun
        · intro hreached
          apply hheld
          rcases hreached with hreached | ⟨entry, hentry, hpublic⟩
          · left
            rw [Circuit.after, hreached, Bool.true_or]
          · rcases List.mem_cons.mp hentry with rfl | hentry
            · left
              rw [Circuit.after, hpublic, Bool.or_true]
            · exact .inr ⟨entry, hentry, hpublic⟩
      · intro turn hturn
        rw [turns, hstep, List.mem_cons] at hturn
        rcases hturn with rfl | hturn
        · exact spares_of_goesOn hstep (hhealthy.passes hoccurs)
            (hhealthy.swept hoccurs hpace)
        · exact hspared turn hturn

/-- A mapping that works is not given up, unless the engine is held up. -/
theorem survives_of_prompt (circuit : Circuit) (began : Instant)
    (events : List (Instant × Event))
    (hcourse : circuit.Course (circuit.start began) events)
    (hprompt : Prompt began events) :
    circuit.Survives (UdpEngine.start began).1 events := by
  obtain ⟨⟨next, hrun, hheld⟩, hspared⟩ :=
    (healthy_start began).run hcourse hprompt
  constructor
  case running =>
    refine ⟨next, hrun, ?_⟩
    intro entry hentry hpublic
    exact hheld (.inr ⟨entry, hentry, hpublic⟩)
  case spared => exact hspared

/-- A ping goes once round the circuit.  Should it start a session, a private
socket can be opened for it. -/
def lap (circuit : Circuit) (now : Instant) (opened : SocketId) :
    List (Instant × Event) :=
  [(now, .fromClient circuit.relay ping (some opened)),
    (now, .atResponder circuit.endpoint ping),
    (now, .fromSession circuit.socket pong),
    (now, .atProber pong)]

def sample : Circuit where
  relay := .v4 ⟨⟨203, 0, 113, 7⟩, 40000⟩
  socket := 0
  endpoint := ⟨.loopback, 50000⟩

def warmUp : List (Instant × Event) :=
  sample.lap 0 0 ++ sample.lap 0 1 ++ sample.lap 0 2

/-- Another client sends what looks like a pong and is answered by what looks
like a ping.  Its session is swept, that of the pings is not. -/
def visited : List (Instant × Event) :=
  let client : SocketAddress := .v4 ⟨⟨198, 51, 100, 1⟩, 5000⟩
  let early : Instant := Duration.seconds 29
  let late : Instant := Duration.seconds 58
  warmUp ++
    [(0, .fromClient client pong (some 3)), (0, .fromSession 3 ping),
      (early, .tick)] ++
    sample.lap early 4 ++ [(late, .readFailed)] ++ sample.lap late 5

theorem survives_of_prompt_visited :
    sample.Course (sample.start 0) visited ∧ Prompt 0 visited ∧
      sample.Survives (UdpEngine.start 0).1 visited := by
  have hcourse : sample.Course (sample.start 0) visited := by decide
  have hprompt : Prompt 0 visited := by
    unfold Prompt
    decide
  exact ⟨hcourse, hprompt, survives_of_prompt sample 0 visited hcourse hprompt⟩

/-- The engine is held up for 31 seconds after its warm-up. -/
def heldUp : List (Instant × Event) :=
  let late : Instant := Duration.seconds 31
  warmUp ++ [(late, .tick), (late, .fromClient sample.relay ping (some 3))]

/-- An engine that is held up may lose the session of the pings.  The ping
that is sent next starts another, which leads to the target. -/
theorem not_survives_of_course :
    ¬∀ (circuit : Circuit) (began : Instant)
        (events : List (Instant × Event)),
      circuit.Course (circuit.start began) events →
        circuit.Survives (UdpEngine.start began).1 events := by
  intro hsurvives
  have hcourse : sample.Course (sample.start 0) heldUp := by decide
  have hastray :
      ∃ turn ∈ (UdpEngine.start 0).1.turns heldUp,
        .connectSession 3 sample.relay .target ∈ turn.effects := by
    decide
  obtain ⟨turn, hturn, hconnected⟩ := hastray
  have hspared := (hsurvives sample 0 heldUp hcourse).spared turn hturn
  have hroute := (hspared.connected 3 sample.relay .target hconnected).2 rfl
  cases hroute

end Circuit

end UdpEngine

end Pinhole
