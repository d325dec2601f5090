import Mathlib.Data.List.Infix
import Pinhole.Forward.TcpEngine

/-!
# The course of each part of an engine

The parts of an engine do not look at each other.  The prober and the responder
read nothing but what happens at their own ends of the keepalive, and a splice
nothing but what happens at its own two connections.  So the course of each
part can be told from the events alone, and an engine that runs is made of
parts that have come as far as their courses.
-/

namespace Pinhole

namespace TcpEngine

/-! ## Routes -/

def Event.accepted? : Event → Option ConnectionId
  | .accepted connection => some connection
  | _ => none

def Effect.connected? : Effect → Option ConnectionId
  | .connectTarget connection => some connection
  | _ => none

/-- The connections that were accepted, in their order. -/
def accepted (events : List (Instant × Event)) : List ConnectionId :=
  events.filterMap fun entry => entry.2.accepted?

/-- Where a connection goes before which so many others were accepted. -/
def routeOf (earlier : Nat) : Route :=
  if earlier % UInt64.size = 0 then .keepalive else .target

/-- Those of the connections that are meant for the target. -/
def forwarded (earlier : Nat) (connections : List ConnectionId) :
    List ConnectionId :=
  ((connections.zipIdx earlier).filter fun entry =>
    routeOf entry.2 = .target).map Prod.fst

/-! ## The course of each part -/

/-- What an event does to the prober. -/
def proberTurn (prober : PingProber) :
    Instant × Event → Except ForwardError PingProber
  | (now, .dialled outcome) => (prober.connected now outcome).1
  | (now, .atProber event) => (prober.step now event).1
  | (now, .tick) => (prober.step now .tick).1
  | (_, .accepted _) | (_, .acceptFailed _) | (_, .atResponder _)
  | (_, .atSplice ..) => .ok prober

/-- What an event does to a responder. -/
def responderTurn (responder : PongResponder) :
    Instant × Event → Except ForwardError PongResponder
  | (now, .atResponder event) => (responder.step now event).1
  | (now, .tick) => (responder.step now .tick).1
  | (_, .dialled _) | (_, .atProber _) | (_, .accepted _)
  | (_, .acceptFailed _) | (_, .atSplice ..) => .ok responder

/-- What a task has come to after all events. -/
def taskAfter {α : Type}
    (turn : α → Instant × Event → Except ForwardError α)
    (task : Except ForwardError α) (events : List (Instant × Event)) :
    Except ForwardError α :=
  events.foldl (fun task entry => task.bind fun running => turn running entry)
    task

/-- The responder after all events, if there is one. -/
def responderAfter (earlier : Nat)
    (responder : Option (Except ForwardError PongResponder)) :
    List (Instant × Event) → Option (Except ForwardError PongResponder)
  | [] => responder
  | (now, .accepted _) :: later =>
      match routeOf earlier with
      | .keepalive =>
          responderAfter (earlier + 1) (some (.ok (.start now))) later
      | .target => responderAfter (earlier + 1) responder later
  | entry :: later =>
      responderAfter earlier
        (responder.map fun task => taskAfter responderTurn task [entry]) later

/-- What an engine's prober has come to. -/
def proberCourse (began : Instant) (events : List (Instant × Event)) :
    Except ForwardError PingProber :=
  taskAfter proberTurn (.ok (.start began)) events

/-- What an engine's responder has come to, if it has one. -/
def responderCourse (events : List (Instant × Event)) :
    Option (Except ForwardError PongResponder) :=
  responderAfter 0 none events

/-- The end of the pause that an event makes the engine begin. -/
def pauseEnd? : Instant × Event → Option Instant
  | (now, .acceptFailed _) => some (now + acceptPause)
  | _ => none

/-- When the pause after the last failed accept is over. -/
def pausedUntil (events : List (Instant × Event)) : Option Instant :=
  (events.filterMap pauseEnd?).getLast?

/-- The error of the prober if it has ended, or else that of the responder. -/
def endOf (prober : Except ForwardError PingProber)
    (responder : Option (Except ForwardError PongResponder)) :
    Option ForwardError :=
  (failure? prober).or (responder.bind failure?)

/-- The error of whichever of the two has ended first. -/
def firstEnd? (began : Instant) (events : List (Instant × Event)) :
    Option ForwardError :=
  events.inits.findSome? fun handled =>
    endOf (proberCourse began handled) (responderCourse handled)

/-- What an event does to the splice of a connection. -/
def spliceTurn (entry : ConnectionId × Splice) :
    Instant × Event → Option (ConnectionId × Splice)
  | (now, .atSplice connection event) =>
      if entry.1 = connection then
        (entry.2.step now event).1.map (Prod.mk entry.1)
      else some entry
  | (now, .tick) => (entry.2.step now .tick).1.map (Prod.mk entry.1)
  | (_, .dialled _) | (_, .atProber _) | (_, .accepted _)
  | (_, .acceptFailed _) | (_, .atResponder _) => some entry

/-- What is left of a splice after all events. -/
def spliceAfter (events : List (Instant × Event))
    (entry : ConnectionId × Splice) : Option (ConnectionId × Splice) :=
  events.foldlM spliceTurn entry

/-- The splices that were made for accepted connections and did not end. -/
def spliced (earlier : Nat) :
    List (Instant × Event) → List (ConnectionId × Splice)
  | [] => []
  | (now, .accepted connection) :: later =>
      match routeOf earlier with
      | .keepalive => spliced (earlier + 1) later
      | .target =>
          (spliceAfter later (connection, .start now)).toList ++
            spliced (earlier + 1) later
  | _ :: later => spliced earlier later

/-- An engine that had accepted some connections has handled events and goes
on: every part is as far as its course, and each connection meant for the
target was connected to it once. -/
structure Runs (earlier : Nat) (engine : TcpEngine)
    (events : List (Instant × Event)) (next : TcpEngine)
    (effects : List Effect) : Prop where
  prober : taskAfter proberTurn engine.prober events = next.prober
  responder : responderAfter earlier engine.responder events = next.responder
  router : next.router.assigned =
    UInt64.ofNat (earlier + (accepted events).length)
  connected : effects.filterMap Effect.connected? =
    forwarded earlier (accepted events)
  splices : next.splices =
    engine.splices.filterMap (spliceAfter events) ++ spliced earlier events

/-! ## One turn -/

theorem spliceAfter_cons (entry : Instant × Event)
    (later : List (Instant × Event)) (splice : ConnectionId × Splice) :
    spliceAfter (entry :: later) splice =
      (spliceTurn splice entry).bind (spliceAfter later) :=
  rfl

theorem upcoming_eq_routeOf {router : Router} {earlier : Nat}
    (hrouter : router.assigned = UInt64.ofNat earlier) :
    router.upcoming = routeOf earlier := by
  have hzero : router.assigned = 0 ↔ earlier % UInt64.size = 0 := by
    rw [hrouter, ← UInt64.toNat_inj, UInt64.toNat_ofNat']
    rfl
  simp only [Router.upcoming, routeOf, hzero]

theorem assigned_assign {router : Router} {earlier : Nat}
    (hrouter : router.assigned = UInt64.ofNat earlier) :
    router.assign.2.assigned = UInt64.ofNat (earlier + 1) := by
  rw [Router.assign, hrouter, UInt64.ofNat_add]
  rfl

theorem stepSplice_eq (now : Instant) (event : Splice.Event)
    (entry : ConnectionId × Splice) :
    (stepSplice now event entry).1 =
        ((entry.2.step now event).1.map (Prod.mk entry.1)).toList ∧
      (stepSplice now event entry).2.filterMap Effect.connected? = [] := by
  obtain ⟨connection, splice⟩ := entry
  unfold stepSplice
  dsimp only
  cases (splice.step now event).1 with
  | none => simp [List.filterMap_map, Effect.connected?, Function.comp_def]
  | some splice =>
      simp [List.filterMap_map, Effect.connected?, Function.comp_def]

/-- A splice is only told what concerns it, and connects to nothing more. -/
theorem stepSplices_eq (now : Instant) (event : Splice.Event)
    (concerned : ConnectionId → Bool)
    (splices : List (ConnectionId × Splice)) :
    (stepSplices now event concerned splices).1 =
        splices.filterMap (fun entry =>
          if concerned entry.1 then
            (entry.2.step now event).1.map (Prod.mk entry.1)
          else some entry) ∧
      (stepSplices now event concerned splices).2.filterMap
        Effect.connected? = [] := by
  induction splices with
  | nil => exact ⟨rfl, rfl⟩
  | cons entry rest ih =>
      obtain ⟨hstep, hnone⟩ := stepSplice_eq now event entry
      unfold stepSplices at ih ⊢
      dsimp only at ih ⊢
      rw [List.map_cons, List.flatMap_cons, List.flatMap_cons, ih.1,
        List.filterMap_append, ih.2, List.filterMap_cons]
      by_cases hconcerned : concerned entry.1
      · rw [if_pos hconcerned, if_pos hconcerned, hstep, hnone]
        cases (entry.2.step now event).1 <;> exact ⟨rfl, rfl⟩
      · rw [if_neg hconcerned, if_neg hconcerned]
        exact ⟨rfl, rfl⟩

section Tasks

variable {α : Type} {turn : α → Instant × Event → Except ForwardError α}

theorem taskAfter_append (task : Except ForwardError α)
    (events later : List (Instant × Event)) :
    taskAfter turn task (events ++ later) =
      taskAfter turn (taskAfter turn task events) later :=
  List.foldl_append

theorem fst_stepTask (task : Except ForwardError α)
    (turn : α → Except ForwardError α × Bool) :
    (stepTask task turn).1 = task.bind fun running => (turn running).1 := by
  cases task <;> rfl

/-- A task is left as it is by what it does not look at. -/
theorem taskAfter_of_ignored {entry : Instant × Event}
    (hignored : ∀ running, turn running entry = .ok running)
    (task : Except ForwardError α) : taskAfter turn task [entry] = task := by
  cases task with
  | error error => rfl
  | ok running => exact hignored running

theorem map_taskAfter_of_ignored {entry : Instant × Event}
    (hignored : ∀ running, turn running entry = .ok running)
    (task? : Option (Except ForwardError α)) :
    (task?.map fun task => taskAfter turn task [entry]) = task? := by
  cases task? with
  | none => rfl
  | some task => exact congrArg some (taskAfter_of_ignored hignored task)

theorem failure?_eq_none_iff {task : Except ForwardError α} :
    failure? task = none ↔ ∃ running, task = .ok running := by
  cases task with
  | error error => exact ⟨nofun, nofun⟩
  | ok running => exact ⟨fun _ => ⟨running, rfl⟩, fun _ => rfl⟩

end Tasks

section Keepalive

variable (engine : TcpEngine) (now : Instant)

theorem fst_stepProber
    (turn : PingProber → Except ForwardError PingProber × Bool) :
    (engine.stepProber turn).1 =
      { engine with
        prober := engine.prober.bind fun prober => (turn prober).1
        ended? := engine.ended?.or
          (failure? (engine.prober.bind fun prober => (turn prober).1)) } := by
  rw [← fst_stepTask]
  rfl

theorem fst_stepResponder (event : StreamEvent) :
    (engine.stepResponder now event).1 =
      { engine with
        responder := engine.responder.map fun task =>
          task.bind fun responder => (responder.step now event).1
        ended? := engine.ended?.or
          ((engine.responder.map fun task =>
            task.bind fun responder => (responder.step now event).1).bind
              failure?) } := by
  unfold stepResponder
  cases hthere : engine.responder with
  | none =>
      cases engine
      cases hthere
      simp
  | some task =>
      dsimp only
      rw [fst_stepTask]
      rfl

/-- What an event does to prober and responder is a turn of each. -/
theorem fst_stepKeepalive (event : Event) :
    (engine.stepKeepalive now event).1 =
      { engine with
        prober := taskAfter proberTurn engine.prober [(now, event)]
        responder := engine.responder.map fun task =>
          taskAfter responderTurn task [(now, event)]
        ended? := (engine.stepKeepalive now event).1.ended? } := by
  cases event with
  | dialled outcome =>
      simp only [stepKeepalive, fst_stepProber]
      rw [map_taskAfter_of_ignored fun _ => rfl]
      rfl
  | atProber event =>
      simp only [stepKeepalive, fst_stepProber]
      rw [map_taskAfter_of_ignored fun _ => rfl]
      rfl
  | atResponder event =>
      simp only [stepKeepalive, fst_stepResponder]
      rw [taskAfter_of_ignored fun _ => rfl]
      rfl
  | tick =>
      simp only [stepKeepalive, fst_stepResponder, fst_stepProber]
      rfl
  | accepted connection =>
      rw [taskAfter_of_ignored fun _ => rfl,
        map_taskAfter_of_ignored fun _ => rfl]
      rfl
  | acceptFailed cause =>
      rw [taskAfter_of_ignored fun _ => rfl,
        map_taskAfter_of_ignored fun _ => rfl]
      rfl
  | atSplice connection event =>
      rw [taskAfter_of_ignored fun _ => rfl,
        map_taskAfter_of_ignored fun _ => rfl]
      rfl

/-- The end of a task is kept as soon as it has ended. -/
def Noted (engine : TcpEngine) : Prop :=
  engine.ended? = none → endOf engine.prober engine.responder = none

theorem endOf_eq_none_iff {prober : Except ForwardError PingProber}
    {responder : Option (Except ForwardError PongResponder)} :
    endOf prober responder = none ↔
      (∃ running, prober = .ok running) ∧
        ∀ task ∈ responder, ∃ running, task = .ok running := by
  rw [endOf, Option.or_eq_none_iff, failure?_eq_none_iff]
  refine and_congr_right fun _ => ?_
  cases responder with
  | none => simp
  | some task => simp [failure?_eq_none_iff]

theorem ended?_stepKeepalive (hnoted : engine.Noted) (event : Event) :
    (engine.stepKeepalive now event).1.ended? =
      engine.ended?.or
        (endOf (engine.stepKeepalive now event).1.prober
          (engine.stepKeepalive now event).1.responder) := by
  cases hended : engine.ended? with
  | some error =>
      cases event <;>
        simp [stepKeepalive, fst_stepProber, fst_stepResponder, hended]
  | none =>
      have hnone := hnoted hended
      obtain ⟨hprober, hresponder⟩ := Option.or_eq_none_iff.mp hnone
      rw [Option.none_or, endOf]
      cases event with
      | dialled outcome | atProber event =>
          simp only [stepKeepalive, fst_stepProber, hended, Option.none_or,
            hresponder, Option.or_none]
      | atResponder event =>
          simp only [stepKeepalive, fst_stepResponder, hended, hprober,
            Option.none_or]
      | tick =>
          simp only [stepKeepalive, fst_stepProber, fst_stepResponder, hended,
            Option.none_or]
      | accepted _ | acceptFailed _ | atSplice _ _ =>
          exact hended.trans hnone.symm

/-- The two tasks send nothing but pings and pongs. -/
theorem snd_stepKeepalive {event : Event} {effect : Effect}
    (hmem : effect ∈ (engine.stepKeepalive now event).2) :
    effect = .sendPing ∨ effect = .sendPong := by
  have hpinged : ∀ turn, effect ∈ (engine.stepProber turn).2 →
      effect = .sendPing := by
    intro turn hmem
    unfold stepProber at hmem
    dsimp only at hmem
    split at hmem
    · exact List.mem_singleton.mp hmem
    · cases hmem
  have hponged : ∀ (engine : TcpEngine) event,
      effect ∈ (engine.stepResponder now event).2 → effect = .sendPong := by
    intro engine event hmem
    unfold stepResponder at hmem
    split at hmem
    · cases hmem
    · dsimp only at hmem
      split at hmem
      · exact List.mem_singleton.mp hmem
      · cases hmem
  cases event with
  | dialled outcome | atProber event => exact Or.inl (hpinged _ hmem)
  | atResponder event => exact Or.inr (hponged _ _ hmem)
  | tick =>
      rcases List.mem_append.mp hmem with hmem | hmem
      · exact Or.inl (hpinged _ hmem)
      · exact Or.inr (hponged _ _ hmem)
  | accepted _ | acceptFailed _ | atSplice _ _ => cases hmem

theorem filterMap_connected?_stepKeepalive (event : Event) :
    (engine.stepKeepalive now event).2.filterMap Effect.connected? = [] := by
  rw [List.filterMap_eq_nil_iff]
  intro effect hmem
  rcases engine.snd_stepKeepalive now hmem with rfl | rfl <;> rfl

end Keepalive

/-! ## What a turn does to the connections -/

section Connections

variable {engine : TcpEngine} {earlier : Nat} (now : Instant)

theorem stepConnections_keepalive (hroute : engine.router.upcoming = .keepalive)
    (connection : ConnectionId) :
    engine.stepConnections now (.accepted connection) =
      ({ engine with
          router := engine.router.assign.2
          responder := some (.ok (.start now)) }, []) := by
  simp only [stepConnections, Router.assign, hroute]

theorem stepConnections_target (hroute : engine.router.upcoming = .target)
    (connection : ConnectionId) :
    engine.stepConnections now (.accepted connection) =
      ({ engine with
          router := engine.router.assign.2
          splices := engine.splices ++ [(connection, .start now)] },
        [.connectTarget connection]) := by
  simp only [stepConnections, Router.assign, hroute]

/-- The connections have no part in how the prober goes on or the tasks end. -/
theorem stepConnections_tasks (engine : TcpEngine) (event : Event) :
    (engine.stepConnections now event).1.prober = engine.prober ∧
      (engine.stepConnections now event).1.ended? = engine.ended? := by
  cases event with
  | accepted connection =>
      cases hroute : engine.router.upcoming with
      | keepalive =>
          rw [stepConnections_keepalive now hroute]
          exact ⟨rfl, rfl⟩
      | target =>
          rw [stepConnections_target now hroute]
          exact ⟨rfl, rfl⟩
  | _ => exact ⟨rfl, rfl⟩

theorem stepConnections_pausedUntil? (engine : TcpEngine) (event : Event) :
    (engine.stepConnections now event).1.pausedUntil? =
      (pauseEnd? (now, event)).or engine.pausedUntil? := by
  cases event with
  | accepted connection =>
      cases hroute : engine.router.upcoming with
      | keepalive => rw [stepConnections_keepalive now hroute]; rfl
      | target => rw [stepConnections_target now hroute]; rfl
  | _ => rfl

theorem filterMap_spliceAfter_of_apart (entry : Instant × Event)
    (hapart : ∀ splice, spliceTurn splice entry = some splice)
    (splices : List (ConnectionId × Splice)) :
    splices.filterMap (spliceAfter [entry]) = splices := by
  have hsame : spliceAfter [entry] = some := by
    funext splice
    rw [spliceAfter_cons, hapart]
    rfl
  rw [hsame, List.filterMap_some]

theorem spliceAfter_atSplice (now : Instant) (connection : ConnectionId)
    (event : Splice.Event) :
    spliceAfter [(now, .atSplice connection event)] = fun entry =>
      if decide (entry.1 = connection) then
        (entry.2.step now event).1.map (Prod.mk entry.1)
      else some entry := by
  funext entry
  rw [spliceAfter_cons, spliceTurn]
  simp only [decide_eq_true_eq]
  exact Option.bind_fun_some _

theorem spliceAfter_tick (now : Instant) :
    spliceAfter [(now, .tick)] = fun entry =>
      if true then (entry.2.step now .tick).1.map (Prod.mk entry.1)
      else some entry := by
  funext entry
  rw [if_pos rfl, spliceAfter_cons, spliceTurn]
  exact Option.bind_fun_some _

theorem splices_stepConnections (engine : TcpEngine) (event : Event)
    (hrouter : engine.router.assigned = UInt64.ofNat earlier) :
    (engine.stepConnections now event).1.splices =
      engine.splices.filterMap (spliceAfter [(now, event)]) ++
        spliced earlier [(now, event)] := by
  have hroute := upcoming_eq_routeOf hrouter
  cases event with
  | accepted connection =>
      rw [filterMap_spliceAfter_of_apart _ fun _ => rfl, spliced]
      cases hearlier : routeOf earlier with
      | keepalive =>
          rw [stepConnections_keepalive now (hroute.trans hearlier)]
          exact (List.append_nil _).symm
      | target =>
          rw [stepConnections_target now (hroute.trans hearlier)]
          rfl
  | atSplice connection event =>
      rw [spliceAfter_atSplice]
      exact (stepSplices_eq now event (· = connection) engine.splices).1.trans
        (List.append_nil _).symm
  | tick =>
      rw [spliceAfter_tick]
      exact (stepSplices_eq now .tick (fun _ => true) engine.splices).1.trans
        (List.append_nil _).symm
  | _ =>
      rw [filterMap_spliceAfter_of_apart _ fun _ => rfl]
      exact (List.append_nil _).symm

theorem connected?_stepConnections (engine : TcpEngine) (event : Event)
    (hrouter : engine.router.assigned = UInt64.ofNat earlier) :
    (engine.stepConnections now event).2.filterMap Effect.connected? =
      forwarded earlier (accepted [(now, event)]) := by
  have hroute := upcoming_eq_routeOf hrouter
  cases event with
  | accepted connection =>
      cases hearlier : routeOf earlier with
      | keepalive =>
          rw [stepConnections_keepalive now (hroute.trans hearlier)]
          simp [accepted, Event.accepted?, forwarded, hearlier]
      | target =>
          rw [stepConnections_target now (hroute.trans hearlier)]
          simp [accepted, Event.accepted?, forwarded, hearlier,
            Effect.connected?]
  | atSplice connection event =>
      exact (stepSplices_eq now event (· = connection) engine.splices).2
  | tick => exact (stepSplices_eq now .tick (fun _ => true) engine.splices).2
  | _ => rfl

theorem router_stepConnections (engine : TcpEngine) (event : Event)
    (hrouter : engine.router.assigned = UInt64.ofNat earlier) :
    (engine.stepConnections now event).1.router.assigned =
      UInt64.ofNat (earlier + (accepted [(now, event)]).length) := by
  cases event with
  | accepted connection =>
      cases hroute : engine.router.upcoming with
      | keepalive =>
          rw [stepConnections_keepalive now hroute]
          exact assigned_assign hrouter
      | target =>
          rw [stepConnections_target now hroute]
          exact assigned_assign hrouter
  | _ => exact hrouter

end Connections

/-! ## A turn as a whole -/

section Turn

variable {engine next : TcpEngine} {earlier : Nat} {now : Instant}
  {event : Event} {effects : List Effect}

theorem responderAfter_singleton {entry : Instant × Event}
    (haccepted : entry.2.accepted? = none)
    (responder : Option (Except ForwardError PongResponder)) :
    responderAfter earlier responder [entry] =
      responder.map fun task => taskAfter responderTurn task [entry] := by
  obtain ⟨now, event⟩ := entry
  cases event with
  | accepted connection => cases haccepted
  | _ => rfl

theorem responder_turn (engine : TcpEngine) (now : Instant) (event : Event)
    (hrouter : engine.router.assigned = UInt64.ofNat earlier) :
    ((engine.stepKeepalive now event).1.stepConnections now
        event).1.responder =
      responderAfter earlier engine.responder [(now, event)] := by
  have hroute := upcoming_eq_routeOf hrouter
  cases event with
  | accepted connection =>
      rw [responderAfter]
      cases hearlier : routeOf earlier with
      | keepalive =>
          rw [stepKeepalive,
            stepConnections_keepalive now (hroute.trans hearlier)]
          rfl
      | target =>
          rw [stepKeepalive,
            stepConnections_target now (hroute.trans hearlier)]
          rfl
  | _ =>
      rw [responderAfter_singleton rfl]
      exact congrArg responder (fst_stepKeepalive engine now _)

/-- In a turn that does not stop the engine every part takes its course. -/
theorem runs_turn (hrouter : engine.router.assigned = UInt64.ofNat earlier)
    (now : Instant) (event : Event) :
    let kept := engine.stepKeepalive now event
    let turn := kept.1.stepConnections now event
    Runs earlier engine [(now, event)] turn.1 (kept.2 ++ turn.2) := by
  intro kept turn
  have hkept : kept.1 = _ := engine.fst_stepKeepalive now event
  have hkeptRouter : kept.1.router.assigned = UInt64.ofNat earlier := by
    rw [hkept]
    exact hrouter
  have hprober : turn.1.prober = kept.1.prober :=
    (stepConnections_tasks now kept.1 event).1
  have hsplices : turn.1.splices = _ :=
    splices_stepConnections now kept.1 event hkeptRouter
  exact
    { prober := by rw [hprober, hkept]
      responder := (responder_turn engine now event hrouter).symm
      router := router_stepConnections now kept.1 event hkeptRouter
      connected := by
        rw [List.filterMap_append, filterMap_connected?_stepKeepalive]
        exact connected?_stepConnections now kept.1 event hkeptRouter
      splices := by rw [hsplices, hkept] }

/-- What the loop finds when it looks. -/
def found? (engine : TcpEngine) (now : Instant) (event : Event) :
    Option ForwardError :=
  if engine.looks now event then (engine.stepKeepalive now event).1.ended?
  else none

theorem step_eq (engine : TcpEngine) (now : Instant) (event : Event) :
    engine.step now event =
      match engine.found? now event with
      | some error => (.error error, (engine.stepKeepalive now event).2)
      | none =>
          let kept := engine.stepKeepalive now event
          let turn := kept.1.stepConnections now event
          (.ok turn.1, kept.2 ++ turn.2) := by
  have hlooks : (engine.stepKeepalive now event).1.looks now event =
      engine.looks now event := by
    rw [fst_stepKeepalive]
    rfl
  rw [found?, ← hlooks]
  rfl

/-- A turn that stops the engine is one in which it finds an end. -/
theorem step_eq_error_iff {error : ForwardError} :
    (engine.step now event).1 = .error error ↔
      engine.found? now event = some error := by
  rw [step_eq]
  cases engine.found? now event with
  | none => exact ⟨nofun, nofun⟩
  | some found => simp

theorem step_of_error {error : ForwardError}
    (hstep : engine.step now event = (.error error, effects)) :
    effects = (engine.stepKeepalive now event).2 := by
  rw [step_eq] at hstep
  cases hfound : engine.found? now event with
  | none =>
      rw [hfound] at hstep
      cases hstep
  | some found =>
      rw [hfound] at hstep
      exact (congrArg Prod.snd hstep).symm

theorem step_of_ok (hstep : engine.step now event = (.ok next, effects)) :
    let kept := engine.stepKeepalive now event
    let turn := kept.1.stepConnections now event
    engine.found? now event = none ∧ next = turn.1 ∧
      effects = kept.2 ++ turn.2 := by
  rw [step_eq] at hstep
  cases hfound : engine.found? now event with
  | none =>
      rw [hfound] at hstep
      exact ⟨rfl, (Except.ok.inj (congrArg Prod.fst hstep)).symm,
        (congrArg Prod.snd hstep).symm⟩
  | some found =>
      rw [hfound] at hstep
      cases hstep

theorem runs_of_step {entry : Instant × Event}
    (hrouter : engine.router.assigned = UInt64.ofNat earlier)
    (hstep : engine.step entry.1 entry.2 = (.ok next, effects)) :
    Runs earlier engine [entry] next effects := by
  obtain ⟨-, rfl, rfl⟩ := step_of_ok hstep
  exact runs_turn hrouter entry.1 entry.2

end Turn

end TcpEngine

end Pinhole
