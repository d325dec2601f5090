import Pinhole.Proofs.Forward.SessionTable

/-!
# What a session table holds after any operations

A registry is the plain idea of a table: a session or none for each source, and
the number of sessions that were ever inserted.  Whatever is done to a table,
and at whatever instants, it holds what the registry holds, and every socket
that was handed over is either held by a session or was closed, by the
insertion that replaced its session or by the sweep that found it idle.
-/

namespace Pinhole

namespace SessionTable

inductive Operation where
  | insert (source : SocketAddress) (socket : SocketId) (now : Instant)
  | touch (source : SocketAddress) (now : Instant)
  | get (source : SocketAddress)
  | sweep (now : Instant)
  | upcomingRoute
  | list
deriving DecidableEq, Repr

/-- The table after an operation, and the sessions that it closed. -/
def perform (table : SessionTable) :
    Operation → SessionTable × List (SocketAddress × Session)
  | .insert source socket now =>
      let (after, replaced) := table.insert source socket now
      (after, (replaced.map (source, ·)).toList)
  | .touch source now => (table.touch source now, [])
  | .sweep now => table.sweep now
  | .get _ | .upcomingRoute | .list => (table, [])

def run (table : SessionTable) :
    List Operation → SessionTable × List (SocketAddress × Session)
  | [] => (table, [])
  | operation :: later =>
      let (after, closed) := table.perform operation
      let (last, rest) := after.run later
      (last, closed ++ rest)

def handedOver (operations : List Operation) : List SocketId :=
  operations.filterMap fun
    | .insert _ socket _ => some socket
    | _ => none

theorem handedOver_cons (operation : Operation) (later : List Operation) :
    handedOver (operation :: later) =
      handedOver [operation] ++ handedOver later := by
  rw [← List.singleton_append, handedOver, List.filterMap_append]
  rfl

def sockets (entries : List (SocketAddress × Session)) : List SocketId :=
  entries.map fun entry => entry.2.socket

end SessionTable

/-- The session of each source, and how many sessions were inserted. -/
structure Registry where
  sessions : SocketAddress → Option Session
  inserted : Nat

namespace Registry

open SessionTable

def empty : Registry := ⟨fun _ => none, 0⟩

/-- An insertion puts a session in the place of another, the first of all on
the keepalive route; a sweep takes away what was idle for longer than the
limit. -/
def perform (registry : Registry) : Operation → Registry
  | .insert source socket now =>
      let route := if registry.inserted = 0 then .keepalive else .target
      { sessions := fun other =>
          if other = source then some ⟨socket, route, now⟩
          else registry.sessions other
        inserted := registry.inserted + 1 }
  | .touch source now =>
      { registry with
        sessions := fun other =>
          if other = source then
            (registry.sessions other).map ({ · with lastActivity := now })
          else registry.sessions other }
  | .sweep now =>
      { registry with
        sessions := fun other =>
          (registry.sessions other).filter fun session =>
            now ≤ session.lastActivity + Session.idleLimit }
  | .get _ | .upcomingRoute | .list => registry

def run (registry : Registry) (operations : List Operation) : Registry :=
  operations.foldl perform registry

theorem inserted_perform (registry : Registry) (operation : Operation) :
    (registry.perform operation).inserted =
      registry.inserted + (handedOver [operation]).length := by
  cases operation <;> rfl

theorem inserted_run (registry : Registry) (operations : List Operation) :
    (registry.run operations).inserted =
      registry.inserted + (handedOver operations).length := by
  induction operations generalizing registry with
  | nil => rfl
  | cons operation later ih =>
      have hlater := ih (registry.perform operation)
      rw [inserted_perform] at hlater
      rw [handedOver_cons, List.length_append, ← Nat.add_assoc]
      exact hlater

end Registry

theorem Session.isExpired_iff {session : Session} {now : Instant} :
    session.isExpired now = true ↔
      session.lastActivity + Session.idleLimit < now := by
  have hlimit (last later : Int) (limit : Nat) :
      limit < (later - last).toNat ↔ last + limit < later := by
    omega
  rw [isExpired, decide_eq_true_iff]
  exact hlimit _ _ _

namespace SessionTable

/-! ## The registry -/

structure Represents (table : SessionTable) (registry : Registry) :
    Prop where
  found : ∀ source, table.get? source = registry.sessions source
  counted : table.router.assigned = UInt64.ofNat registry.inserted

theorem represents_empty : Represents empty Registry.empty where
  found := fun _ => rfl
  counted := rfl

namespace Represents

variable {table : SessionTable} {registry : Registry}

theorem upcomingRoute_eq (hrepresents : Represents table registry)
    (hcount : registry.inserted < UInt64.size) :
    table.upcomingRoute =
      if registry.inserted = 0 then .keepalive else .target := by
  have hzero :
      table.router.assigned = 0 ↔ registry.inserted = 0 := by
    rw [hrepresents.counted, ← UInt64.toNat_inj,
      UInt64.toNat_ofNat_of_lt' hcount]
    rfl
  simp only [upcomingRoute, Router.upcoming, hzero]

theorem perform (hrepresents : Represents table registry)
    (hcount : registry.inserted < UInt64.size) (operation : Operation) :
    Represents (table.perform operation).1 (registry.perform operation) := by
  cases operation with
  | insert source socket now =>
      constructor
      case found =>
        intro other
        by_cases hother : other = source
        · subst hother
          have hroute := hrepresents.upcomingRoute_eq hcount
          simp [SessionTable.perform, Registry.perform, get?_insert_self,
            hroute]
        · simp [SessionTable.perform, Registry.perform, hother,
            get?_insert_of_ne, hrepresents.found]
      case counted =>
        simp [SessionTable.perform, Registry.perform, hrepresents.counted]
  | touch source now =>
      constructor
      case found =>
        intro other
        simp [SessionTable.perform, Registry.perform, get?_touch,
          hrepresents.found]
      case counted => exact hrepresents.counted
  | sweep now =>
      constructor
      case found =>
        intro other
        have hkept (session : Session) :
            (!session.isExpired now) =
              decide (now ≤ session.lastActivity + Session.idleLimit) := by
          rw [Bool.eq_iff_iff, Bool.not_eq_true', ← Bool.not_eq_true,
            Session.isExpired_iff, decide_eq_true_iff, Int.not_lt]
        simp [SessionTable.perform, Registry.perform, get?_sweep,
          hrepresents.found, hkept]
      case counted => exact hrepresents.counted
  | get source => exact hrepresents
  | upcomingRoute => exact hrepresents
  | list => exact hrepresents

theorem run (hrepresents : Represents table registry)
    {operations : List Operation}
    (hcount :
      registry.inserted + (handedOver operations).length < UInt64.size) :
    Represents (table.run operations).1 (registry.run operations) := by
  induction operations generalizing table registry with
  | nil => exact hrepresents
  | cons operation later ih =>
      rw [handedOver_cons, List.length_append] at hcount
      have hnow : registry.inserted < UInt64.size := by omega
      have hlater :
          (registry.perform operation).inserted +
            (handedOver later).length < UInt64.size := by
        rw [Registry.inserted_perform]
        omega
      exact ih (hrepresents.perform hnow operation) hlater

end Represents

/-! ## The sockets -/

theorem mem_closed_iff {table : SessionTable} {operation : Operation}
    {source : SocketAddress} {session : Session} :
    (source, session) ∈ (table.perform operation).2 ↔
      table.get? source = some session ∧
        ((∃ socket now, operation = .insert source socket now) ∨
          ∃ now, operation = .sweep now ∧
            session.lastActivity + Session.idleLimit < now) := by
  cases operation with
  | insert other socket now =>
      simp only [perform, insert, Option.mem_toList, Option.map_eq_some_iff,
        Prod.mk.injEq, Operation.insert.injEq, reduceCtorEq, false_and,
        exists_false, or_false]
      constructor
      · rintro ⟨_, hheld, rfl, rfl⟩
        exact ⟨hheld, socket, now, rfl, rfl, rfl⟩
      · rintro ⟨hheld, _, _, rfl, _, _⟩
        exact ⟨session, hheld, rfl, rfl⟩
  | sweep now =>
      simp [perform, sweep, get?_eq_some_iff, Session.isExpired_iff]
  | touch other now => simp [perform]
  | get other => simp [perform]
  | upcomingRoute => simp [perform]
  | list => simp [perform]

theorem sockets_touch (table : SessionTable) (source : SocketAddress)
    (now : Instant) :
    sockets (table.touch source now).entries = sockets table.entries := by
  have hassignments := congrArg (List.map Assignment.socket)
    (assignments_touch table source now)
  rw [assignments, assignments, List.map_map, List.map_map] at hassignments
  exact hassignments

/-- What is handed over or held before an operation is held or closed by
it. -/
theorem perm_perform (table : SessionTable) (operation : Operation) :
    (handedOver [operation] ++ sockets table.entries).Perm
      (sockets (table.perform operation).1.entries ++
        sockets (table.perform operation).2) := by
  cases operation with
  | insert source socket now =>
      have hentries :=
        (table.perm_insert source socket now).map fun entry =>
          entry.2.socket
      rw [List.map_append] at hentries
      exact hentries
  | sweep now =>
      have hentries := (table.perm_sweep now).map fun entry => entry.2.socket
      rw [List.map_append] at hentries
      exact hentries
  | touch source now =>
      have hsockets := table.sockets_touch source now
      simp only [perform, hsockets]
      simp [handedOver, sockets]
  | get source => simp [perform, handedOver, sockets]
  | upcomingRoute => simp [perform, handedOver, sockets]
  | list => simp [perform, handedOver, sockets]

theorem perm_run (table : SessionTable) (operations : List Operation) :
    (handedOver operations ++ sockets table.entries).Perm
      (sockets (table.run operations).1.entries ++
        sockets (table.run operations).2) := by
  induction operations generalizing table with
  | nil => simp [run, handedOver, sockets]
  | cons operation later ih =>
      have hnow := table.perm_perform operation
      have hlater := ih (table.perform operation).1
      have hclosed :
          sockets (table.run (operation :: later)).2 =
            sockets (table.perform operation).2 ++
              sockets ((table.perform operation).1.run later).2 :=
        List.map_append
      have hleft :
          (handedOver [operation] ++ handedOver later ++
              sockets table.entries).Perm
            (handedOver later ++
              (handedOver [operation] ++ sockets table.entries)) := by
        rw [← List.append_assoc]
        exact List.perm_append_comm.append_right _
      have hmiddle :
          (handedOver later ++
              (handedOver [operation] ++ sockets table.entries)).Perm
            (sockets ((table.perform operation).1.run later).1.entries ++
              sockets ((table.perform operation).1.run later).2 ++
              sockets (table.perform operation).2) := by
        refine (hnow.append_left _).trans ?_
        rw [← List.append_assoc]
        exact hlater.append_right _
      rw [handedOver_cons, hclosed]
      refine (hleft.trans hmiddle).trans ?_
      rw [List.append_assoc]
      exact List.perm_append_comm.append_left _

/-! ## Sessions that stay -/

/-- An operation other than an insertion for the same source closes a session
or leaves its socket and its route as they are. -/
theorem get?_perform_cases {table : SessionTable} {source : SocketAddress}
    {session : Session} (hheld : table.get? source = some session)
    {operation : Operation}
    (hother : ∀ socket now, operation ≠ .insert source socket now) :
    ((table.perform operation).1.get? source = none ∧
        ∃ now, operation = .sweep now ∧
          session.lastActivity + Session.idleLimit < now) ∨
      ∃ now, (table.perform operation).1.get? source =
          some { session with lastActivity := now } ∧
        (now = session.lastActivity ∨ operation = .touch source now) := by
  have hsame :
      some session =
        some { session with lastActivity := session.lastActivity } := rfl
  cases operation with
  | insert other socket now =>
      right
      have hne : source ≠ other := by
        rintro rfl
        exact hother socket now rfl
      refine ⟨session.lastActivity, ?_, Or.inl rfl⟩
      rw [← hsame, ← hheld]
      exact table.get?_insert_of_ne hne socket now
  | touch other now =>
      right
      by_cases hsource : source = other
      · subst hsource
        exact ⟨now, get?_touch_self hheld now, Or.inr rfl⟩
      · refine ⟨session.lastActivity, ?_, Or.inl rfl⟩
        rw [← hsame, ← hheld]
        exact table.get?_touch_of_ne hsource now
  | sweep now =>
      have hswept := table.get?_sweep source now
      rw [hheld] at hswept
      by_cases hexpired : session.isExpired now = true
      · left
        refine ⟨?_, now, rfl, Session.isExpired_iff.mp hexpired⟩
        rw [perform, hswept]
        simp [hexpired]
      · right
        refine ⟨session.lastActivity, ?_, Or.inl rfl⟩
        rw [perform, hswept]
        simp [hexpired]
  | get other => exact Or.inr ⟨session.lastActivity, hheld, Or.inl rfl⟩
  | upcomingRoute => exact Or.inr ⟨session.lastActivity, hheld, Or.inl rfl⟩
  | list => exact Or.inr ⟨session.lastActivity, hheld, Or.inl rfl⟩

/-! ## The refinement -/

/-- What a table has come to by operations. -/
structure Refines (operations : List Operation) (table : SessionTable)
    (closed : List (SocketAddress × Session)) : Prop where
  found : ∀ source,
    table.get? source = (Registry.empty.run operations).sessions source
  listed : ∀ source session,
    (source, session) ∈ table.entries ↔
      (Registry.empty.run operations).sessions source = some session
  unique : (table.entries.map Prod.fst).Nodup
  /-- The next session is routed to the responder if it is the first of all. -/
  upcoming : table.upcomingRoute = .keepalive ↔ handedOver operations = []
  inserted : ∀ source socket now,
    (table.perform (.insert source socket now)).1.get? source =
      some ⟨socket, table.upcomingRoute, now⟩
  looked : ∀ operation,
    operation = .upcomingRoute ∨ operation = .list ∨
        (∃ source, operation = .get source) →
      table.perform operation = (table, [])
  /-- Nothing but an insertion for the same source changes the socket or the
  route of a session. -/
  kept : ∀ operation source session,
    table.get? source = some session →
      (∀ socket now, operation ≠ .insert source socket now) →
        ((table.perform operation).1.get? source = none ∧
            ∃ now, operation = .sweep now ∧
              session.lastActivity + Session.idleLimit < now) ∨
          ∃ now, (table.perform operation).1.get? source =
              some { session with lastActivity := now } ∧
            (now = session.lastActivity ∨ operation = .touch source now)
  /-- A socket is closed by the insertion that replaces its session or by the
  sweep that finds it idle. -/
  closes : ∀ operation source session,
    (source, session) ∈ (table.perform operation).2 ↔
      table.get? source = some session ∧
        ((∃ socket now, operation = .insert source socket now) ∨
          ∃ now, operation = .sweep now ∧
            session.lastActivity + Session.idleLimit < now)
  /-- As often as a socket was handed over it is held or was closed. -/
  conserved :
    (handedOver operations).Perm (sockets table.entries ++ sockets closed)
  /-- A socket that was handed over once is either held or was closed. -/
  either : (handedOver operations).Nodup → ∀ socket ∈ handedOver operations,
    (sockets table.entries).count socket = 1 ∧
        (sockets closed).count socket = 0 ∨
      (sockets table.entries).count socket = 0 ∧
        (sockets closed).count socket = 1

theorem run_refines {operations : List Operation}
    (hcount : (handedOver operations).length < UInt64.size) :
    Refines operations (empty.run operations).1
      (empty.run operations).2 := by
  have hinserted :
      (Registry.empty.run operations).inserted =
        (handedOver operations).length := by
    rw [Registry.inserted_run]
    exact Nat.zero_add _
  have hrepresents :
      Represents (empty.run operations).1 (Registry.empty.run operations) :=
    represents_empty.run (by simpa [Registry.empty] using hcount)
  have hconserved :
      (handedOver operations).Perm
        (sockets (empty.run operations).1.entries ++
          sockets (empty.run operations).2) := by
    have hperm := perm_run empty operations
    rw [empty, sockets, List.map_nil, List.append_nil] at hperm
    exact hperm
  constructor
  case found =>
    exact hrepresents.found
  case listed =>
    intro source session
    rw [← get?_eq_some_iff, hrepresents.found]
  case unique =>
    exact (empty.run operations).1.nodup_sources
  case upcoming =>
    rw [hrepresents.upcomingRoute_eq (by rwa [hinserted]), hinserted]
    simp
  case inserted =>
    intro source socket now
    exact get?_insert_self _ source socket now
  case looked =>
    rintro operation (rfl | rfl | ⟨source, rfl⟩) <;> rfl
  case kept =>
    intro operation source session hheld hother
    exact get?_perform_cases hheld hother
  case closes =>
    intro operation source session
    exact mem_closed_iff
  case conserved =>
    exact hconserved
  case either =>
    intro hnodup socket hsocket
    have hcounts := hconserved.count_eq socket
    rw [List.count_eq_one_of_mem hnodup hsocket, List.count_append]
      at hcounts
    omega

/-- Two clients, of whom the first comes twice, and a clock that goes back
before a sweep. -/
def comeback : List Operation :=
  let first : SocketAddress := .v4 ⟨⟨198, 51, 100, 1⟩, 5000⟩
  let second : SocketAddress := .v4 ⟨⟨198, 51, 100, 2⟩, 5000⟩
  [.insert first 10 (Duration.seconds 40),
    .insert second 11 0,
    .touch second (Duration.seconds 2),
    .insert first 12 (Duration.seconds 1),
    .upcomingRoute,
    .sweep (Duration.seconds 32),
    .get second]

theorem run_refines_comeback :
    (handedOver comeback).length < UInt64.size ∧
      (sockets (empty.run comeback).1.entries,
          sockets (empty.run comeback).2) = ([11], [10, 12]) ∧
      Refines comeback (empty.run comeback).1 (empty.run comeback).2 :=
  ⟨by decide, by decide, run_refines (by decide)⟩

end SessionTable

end Pinhole
