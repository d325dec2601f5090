import Pinhole.Proofs.Forward.ConnectionRouting

/-!
# One connection of an engine

As the engine passes every event on to the splices that it is about, and to no
others, its run can be looked at from one connection at a time.
-/

namespace Pinhole

/-! ## Conditions on what comes next -/

/-- A condition on each item of a list that depends on those before it. -/
def Throughout {α : Type} (condition : List α → α → Prop) (items : List α) :
    Prop :=
  ∀ before item after, items = before ++ item :: after →
    condition before item

section Throughout

variable {α : Type} {condition : List α → α → Prop} {items : List α} {item : α}

theorem Throughout.of_append {later : List α}
    (hall : Throughout condition (items ++ later)) :
    Throughout condition items := by
  rintro before item after rfl
  refine hall before item (after ++ later) ?_
  rw [List.append_assoc, List.cons_append]

theorem Throughout.last (hall : Throughout condition (items ++ [item])) :
    condition items item :=
  hall items item [] rfl

theorem throughout_nil : Throughout condition [] := by
  rintro before item after hsplit
  simp at hsplit

theorem throughout_cons_iff :
    Throughout condition (item :: items) ↔ condition [] item ∧
      Throughout (fun before => condition (item :: before)) items := by
  constructor
  · intro hall
    exact ⟨hall [] item items rfl, fun before next after hsplit =>
      hall (item :: before) next after (congrArg (List.cons item) hsplit)⟩
  · rintro ⟨hfirst, hlater⟩ before next after hsplit
    cases before with
    | nil =>
        obtain ⟨rfl, -⟩ := List.cons.inj hsplit
        exact hfirst
    | cons first before =>
        obtain ⟨rfl, hrest⟩ := List.cons.inj hsplit
        exact hlater before next after hrest

end Throughout

namespace TcpEngine

/-! ## What is seen of one connection -/

def Event.connection? : Event → Option ConnectionId
  | .accepted connection | .atSplice connection _ => some connection
  | .dialled _ | .atProber _ | .acceptFailed _ | .atResponder _ | .tick =>
      none

def Effect.connection? : Effect → Option ConnectionId
  | .connectTarget connection | .write connection _ _ | .close connection =>
      some connection
  | .dialMapping | .sendPing | .sendPong => none

/-- The effects on one connection. -/
def concerning (connection : ConnectionId) (effects : List Effect) :
    List Effect :=
  effects.filter fun effect => effect.connection? = some connection

/-- The splice of one connection, if there is one. -/
def spliceOf (connection : ConnectionId)
    (splices : List (ConnectionId × Splice)) : List (ConnectionId × Splice) :=
  splices.filter fun entry => entry.1 = connection

section View

variable {connection : ConnectionId}

theorem concerning_append (connection : ConnectionId)
    (effects later : List Effect) :
    concerning connection (effects ++ later) =
      concerning connection effects ++ concerning connection later :=
  List.filter_append _ _

theorem mem_concerning_iff {effect : Effect} {effects : List Effect}
    (heffect : effect.connection? = some connection) :
    effect ∈ concerning connection effects ↔ effect ∈ effects := by
  rw [concerning, List.mem_filter, and_iff_left (decide_eq_true heffect)]

/-! ## A turn as seen from one connection -/

/-- What a splice wrote, as effects. -/
def writes (connection : ConnectionId) (written : List (Direction × Bytes)) :
    List Effect :=
  (written.filter fun write => write.2 ≠ []).map fun write =>
    .write connection write.1 write.2

theorem stepSplice_of_some {now : Instant} {event : Splice.Event}
    {splice next : Splice} {written : List (Direction × Bytes)}
    (hstep : splice.step now event = (some next, written)) :
    stepSplice now event (connection, splice) =
      ([(connection, next)], writes connection written) := by
  simp only [stepSplice, hstep]
  rfl

theorem stepSplice_of_none {now : Instant} {event : Splice.Event}
    {splice : Splice} {written : List (Direction × Bytes)}
    (hstep : splice.step now event = (none, written)) :
    stepSplice now event (connection, splice) =
      ([], writes connection written ++ [.close connection]) := by
  simp only [stepSplice, hstep]
  rfl

theorem connection?_of_mem_writes {effect : Effect}
    {written : List (Direction × Bytes)}
    (hmem : effect ∈ writes connection written) :
    effect.connection? = some connection := by
  obtain ⟨write, -, rfl⟩ := List.mem_map.mp hmem
  rfl

theorem close_notMem_writes {written : List (Direction × Bytes)} :
    .close connection ∉ writes connection written := by
  simp [writes]

theorem stepSplice_about (now : Instant) (event : Splice.Event)
    (entry : ConnectionId × Splice) :
    (∀ left ∈ (stepSplice now event entry).1, left.1 = entry.1) ∧
      ∀ effect ∈ (stepSplice now event entry).2,
        effect.connection? = some entry.1 := by
  obtain ⟨connection, splice⟩ := entry
  cases hstep : splice.step now event with
  | mk next? written =>
      cases next? with
      | none =>
          rw [stepSplice_of_none hstep]
          refine ⟨nofun, fun effect hmem => ?_⟩
          rcases List.mem_append.mp hmem with hwrite | hclose
          · exact connection?_of_mem_writes hwrite
          · rw [List.mem_singleton.mp hclose]
            rfl
      | some next =>
          rw [stepSplice_of_some hstep]
          refine ⟨fun left hmem => ?_, fun effect hmem => ?_⟩
          · rw [List.mem_singleton.mp hmem]
          · exact connection?_of_mem_writes hmem

theorem filter_flatMap_of_tagged {α β : Type} {f : α → List β} {p : α → Bool}
    {q : β → Bool} (htag : ∀ a, ∀ b ∈ f a, q b = p a) (as : List α) :
    (as.flatMap f).filter q = (as.filter p).flatMap f := by
  induction as with
  | nil => rfl
  | cons a as ih =>
      rw [List.flatMap_cons, List.filter_append, ih]
      cases ha : p a with
      | true =>
          rw [List.filter_cons_of_pos ha, List.flatMap_cons,
            List.filter_eq_self.mpr fun b hb => (htag a b hb).trans ha]
      | false =>
          rw [List.filter_cons_of_neg (by simp [ha]),
            List.filter_eq_nil_iff.mpr fun b hb => by simp [htag a b hb, ha]]
          rfl

/-- To look at one connection after splices were told of an event is to tell
only its splice. -/
theorem spliceOf_stepSplices (connection : ConnectionId) (now : Instant)
    (event : Splice.Event) (concerned : ConnectionId → Bool)
    (splices : List (ConnectionId × Splice)) :
    spliceOf connection (stepSplices now event concerned splices).1 =
        (stepSplices now event concerned (spliceOf connection splices)).1 ∧
      concerning connection (stepSplices now event concerned splices).2 =
        (stepSplices now event concerned
          (spliceOf connection splices)).2 := by
  unfold stepSplices
  simp only [List.flatMap_map, spliceOf, concerning]
  constructor
  · refine filter_flatMap_of_tagged (fun entry left hmem => ?_) splices
    split at hmem
    · rw [(stepSplice_about now event entry).1 left hmem]
    · rw [List.mem_singleton.mp hmem]
  · refine filter_flatMap_of_tagged (fun entry effect hmem => ?_) splices
    split at hmem
    · simp [(stepSplice_about now event entry).2 effect hmem]
    · cases hmem

theorem stepSplices_singleton {now : Instant} {event : Splice.Event}
    {concerned : ConnectionId → Bool} {splice : Splice}
    (hconcerned : concerned connection = true) :
    stepSplices now event concerned [(connection, splice)] =
      stepSplice now event (connection, splice) := by
  unfold stepSplices
  simp only [List.map_singleton, hconcerned, if_true, List.flatMap_singleton]

theorem stepSplices_of_unconcerned (now : Instant) (event : Splice.Event)
    {concerned : ConnectionId → Bool} {splices : List (ConnectionId × Splice)}
    (hnone : ∀ entry ∈ splices, concerned entry.1 = false) :
    stepSplices now event concerned splices = (splices, []) := by
  have hmap : (splices.map fun entry =>
      if concerned entry.1 then stepSplice now event entry
      else ([entry], [])) = splices.map fun entry => ([entry], []) :=
    List.map_congr_left fun entry hmem => if_neg (by simp [hnone entry hmem])
  unfold stepSplices
  rw [hmap]
  simp [List.flatMap_map]

/-- What a turn does to the splice of one connection, and its effects on it. -/
inductive Seen (connection : ConnectionId) :
    Instant × Event → List (ConnectionId × Splice) →
      List (ConnectionId × Splice) → List Effect → Prop
  | kept {now splices} :
      Seen connection (now, .accepted connection) splices splices []
  | spliced {now splices} :
      Seen connection (now, .accepted connection) splices
        (splices ++ [(connection, .start now)]) [.connectTarget connection]
  | told {now event splices} :
      Seen connection (now, .atSplice connection event) splices
        (stepSplices now event (· = connection) splices).1
        (stepSplices now event (· = connection) splices).2
  | tick {now splices} :
      Seen connection (now, .tick) splices
        (stepSplices now .tick (fun _ => true) splices).1
        (stepSplices now .tick (fun _ => true) splices).2
  | apart {entry splices} (htime : entry.2 ≠ .tick)
      (hapart : entry.2.connection? ≠ some connection) :
      Seen connection entry splices splices []

section Turn

variable {engine next : TcpEngine} {now : Instant} {turn : List Effect}

theorem concerning_stepKeepalive (connection : ConnectionId)
    (engine : TcpEngine) (now : Instant) (event : Event) :
    concerning connection (engine.stepKeepalive now event).2 = [] := by
  rw [concerning, List.filter_eq_nil_iff]
  intro effect hmem
  rcases engine.snd_stepKeepalive now hmem with rfl | rfl <;>
    simp [Effect.connection?]

theorem seen_stepConnections (connection : ConnectionId) (engine : TcpEngine)
    (now : Instant) (event : Event) :
    Seen connection (now, event) (spliceOf connection engine.splices)
      (spliceOf connection (engine.stepConnections now event).1.splices)
      (concerning connection (engine.stepConnections now event).2) := by
  cases event with
  | accepted other =>
      by_cases hother : other = connection
      · subst hother
        cases hroute : engine.router.upcoming with
        | keepalive =>
            rw [stepConnections_keepalive now hroute]
            exact .kept
        | target =>
            rw [stepConnections_target now hroute]
            simpa [spliceOf, concerning, Effect.connection?] using .spliced
      · have hapart : (Event.accepted other).connection? ≠ some connection :=
          fun h => hother (Option.some.inj h)
        cases hroute : engine.router.upcoming with
        | keepalive =>
            rw [stepConnections_keepalive now hroute]
            exact .apart (by simp) hapart
        | target =>
            rw [stepConnections_target now hroute]
            simpa [spliceOf, concerning, Effect.connection?, hother]
              using .apart (by simp) hapart
  | atSplice other event =>
      obtain ⟨hsplices, heffects⟩ := spliceOf_stepSplices connection now event
        (· = other) engine.splices
      rw [stepConnections]
      dsimp only
      rw [hsplices, heffects]
      by_cases hother : other = connection
      · subst hother
        exact .told
      · have hnone : ∀ entry ∈ spliceOf connection engine.splices,
            decide (entry.1 = other) = false := by
          intro entry hmem
          have hentry := of_decide_eq_true (List.mem_filter.mp hmem).2
          exact decide_eq_false fun h => hother (h.symm.trans hentry)
        rw [stepSplices_of_unconcerned now event hnone]
        exact .apart (by simp) fun h => hother (Option.some.inj h)
  | tick =>
      obtain ⟨hsplices, heffects⟩ := spliceOf_stepSplices connection now .tick
        (fun _ => true) engine.splices
      rw [stepConnections]
      dsimp only
      rw [hsplices, heffects]
      exact .tick
  | _ => exact .apart (by simp) (by simp [Event.connection?])

theorem seen_step {event : Event}
    (hstep : engine.step now event = (.ok next, turn)) :
    Seen connection (now, event) (spliceOf connection engine.splices)
      (spliceOf connection next.splices) (concerning connection turn) := by
  obtain ⟨-, rfl, rfl⟩ := step_of_ok hstep
  have hsplices : (engine.stepKeepalive now event).1.splices =
      engine.splices := by
    rw [fst_stepKeepalive]
  rw [concerning_append, concerning_stepKeepalive, ← hsplices]
  exact seen_stepConnections connection _ now event

theorem concerning_step_error {event : Event} {error : ForwardError}
    (hstep : engine.step now event = (.error error, turn)) :
    concerning connection turn = [] := by
  rw [step_of_error hstep]
  exact concerning_stepKeepalive connection engine now event

end Turn

/-! ## A run as seen from one connection -/

section Run

variable {engine next : TcpEngine} {handled : List (Instant × Event)}

/-- The part of a run that the engine did not stop in says all there is to say
of a connection. -/
theorem exists_handled (engine : TcpEngine) (connection : ConnectionId)
    (events : List (Instant × Event)) :
    ∃ handled unread next, events = handled ++ unread ∧
      (engine.run handled).1 = .ok next ∧
      concerning connection (engine.run events).2 =
        concerning connection (engine.run handled).2 := by
  induction events generalizing engine with
  | nil => exact ⟨[], [], engine, rfl, rfl, rfl⟩
  | cons entry later ih =>
      cases hstep : engine.step entry.1 entry.2 with
      | mk outcome turn =>
          cases outcome with
          | error error =>
              refine ⟨[], entry :: later, engine, rfl, rfl, ?_⟩
              rw [run_cons_of_error hstep]
              exact concerning_step_error hstep
          | ok middle =>
              obtain ⟨handled, unread, next, rfl, hrun, hsame⟩ := ih middle
              refine ⟨entry :: handled, unread, next, rfl, ?_, ?_⟩
              · rw [run_cons_of_ok hstep]
                exact hrun
              · rw [run_cons_of_ok hstep, run_cons_of_ok hstep,
                  concerning_append, concerning_append, hsame]

end Run

end View

end TcpEngine

end Pinhole
