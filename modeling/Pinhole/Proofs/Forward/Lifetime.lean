import Mathlib.Data.List.DropRight
import Pinhole.Proofs.Forward.Isolation
import Pinhole.Proofs.Forward.TimerSpacing

/-!
# How long an engine runs

An engine lives by its pings.  From the events alone, and from the instants at
which the ping timer was polled, one can tell how often the timer has fired
since the last pong; the engine stops at the fifth firing in a row, does not
send the ping that was due then, and stops for no other reason.

One turn extends the history of pongs and firings by at most one of each, the
pong first.  The count of the engine is that of the history.
-/

namespace Pinhole

/-! ## The parts of the engine that keep the mapping alive -/

namespace PingState

/-- What is answered to a ping that is the last of so many unanswered ones. -/
def loss? (limit : UInt32) (count : Nat) : Option ForwardError :=
  if limit.toNat ≤ count then
    some (.mappingLost s!"{count} consecutive pings unanswered")
  else none

theorem onPing_eq {state : PingState}
    (hcount : state.missed.toNat + 1 < UInt32.size) :
    state.onPing =
        (loss? state.maxMissed (state.missed.toNat + 1),
          { state with missed := state.missed + 1 }) ∧
      (state.missed + 1).toNat = state.missed.toNat + 1 := by
  have hnext : (state.missed + 1).toNat = state.missed.toNat + 1 := by
    rw [UInt32.toNat_add]
    exact Nat.mod_eq_of_lt hcount
  refine ⟨?_, hnext⟩
  rw [← hnext]
  rfl

end PingState

theorem take_eq_pong_iff (payload : Bytes) :
    payload.take UdpEngine.keepaliveLimit = pong ↔ payload = pong := by
  constructor
  · intro htake
    have hlength := congrArg List.length htake
    have hpong : pong.length = 4 := rfl
    rw [List.length_take, hpong, UdpEngine.keepaliveLimit] at hlength
    rwa [List.take_of_length_le] at htake
    rw [UdpEngine.keepaliveLimit]
    omega
  · rintro rfl
    rfl

namespace UdpEngine

/-- What a turn can do about the count of pings: it hears a pong, or a ping is
due. -/
inductive Mark where
  | pong
  | ping
deriving DecidableEq, Repr

/-- How many pings were due since the last pong. -/
def unanswered (history : List Mark) : Nat :=
  (history.rtakeWhile (· ≠ .pong)).length

@[simp] theorem unanswered_append_pong (history : List Mark) :
    unanswered (history ++ [.pong]) = 0 := by
  rw [unanswered, List.rtakeWhile_concat_neg _ _ _ (by simp)]
  rfl

@[simp] theorem unanswered_append_ping (history : List Mark) :
    unanswered (history ++ [.ping]) = unanswered history + 1 := by
  rw [unanswered, List.rtakeWhile_concat_pos _ _ _ (by simp),
    List.length_append]
  rfl

def Event.marks (event : Event) : List Mark :=
  if event = .atProber Pinhole.pong then [.pong] else []

/-- The marks of one event and of the poll of the timer that follows it. -/
def turnMarks (timer : Periodic) (now : Instant) (event : Event) :
    List Mark :=
  event.marks ++ if (timer.poll now).1 then [.ping] else []

def marks (timer : Periodic) : List (Instant × Event) → List Mark
  | [] => []
  | (now, event) :: later =>
      turnMarks timer now event ++ marks (timer.poll now).2 later

def Effect.mark? : Effect → Option Mark
  | .sendPing => some .ping
  | _ => none

/-- The pongs that were heard in a turn and the pings that were sent. -/
def Turn.marks (turn : Turn) : List Mark :=
  turn.event.marks ++ turn.effects.filterMap Effect.mark?

/-! ## One turn -/

section Step

variable (engine : UdpEngine) (now : Instant) (event : Event)

theorem pingTimer_handle :
    (engine.handle now event).1.pingTimer = engine.pingTimer := by
  unfold handle forward
  split
  · split <;> rfl
  · split <;> rfl
  · split <;> rfl
  · split <;> rfl
  · rfl
  · rfl

theorem pings_handle :
    (engine.handle now event).1.pings =
      if event = .atProber Pinhole.pong then engine.pings.onPong
      else engine.pings := by
  cases event with
  | fromClient source payload opened =>
      rw [if_neg (by simp)]
      unfold handle forward
      dsimp only
      split <;> rfl
  | fromSession socket payload =>
      rw [if_neg (by simp)]
      unfold handle
      dsimp only
      split <;> rfl
  | atResponder sender payload =>
      rw [if_neg (by simp)]
      unfold handle
      dsimp only
      split <;> rfl
  | atProber payload =>
      simp only [handle, take_eq_pong_iff, Event.atProber.injEq]
      split <;> rfl
  | readFailed => rfl
  | tick => rfl

theorem filterMap_mark?_handle :
    (engine.handle now event).2.filterMap Effect.mark? = [] := by
  have hhandling := handling_handle engine now event
  generalize (engine.handle now event).1.sessions = after at hhandling
  generalize (engine.handle now event).2 = effects at hhandling ⊢
  cases hhandling with
  | known hsession => rfl
  | opened hnone => rfl
  | refused hnone => rfl
  | returned howner => rfl
  | apart hevent heffects =>
      rw [List.filterMap_eq_nil_iff]
      intro effect hmem
      obtain ⟨sender, rfl⟩ := heffects effect hmem
      rfl

theorem pings_sweepIfDue :
    (engine.sweepIfDue now).1.pings = engine.pings ∧
      (engine.sweepIfDue now).1.pingTimer = engine.pingTimer := by
  unfold sweepIfDue
  dsimp only
  split <;> exact ⟨rfl, rfl⟩

theorem filterMap_mark?_sweepIfDue :
    (engine.sweepIfDue now).2.filterMap Effect.mark? = [] := by
  unfold sweepIfDue
  dsimp only
  split
  · rw [List.filterMap_map, List.filterMap_eq_nil_iff]
    exact fun _ _ => rfl
  · rfl

end Step

/-- What a turn does after which the engine goes on as `next`. -/
structure GoesOn (engine : UdpEngine) (now : Instant) (event : Event)
    (next : UdpEngine) (effects : List Effect) : Prop where
  sessions : next.sessions =
    ((engine.handle now event).1.sweepIfDue now).1.sessions
  pingTimer : next.pingTimer = (engine.pingTimer.poll now).2
  effects : effects =
    (engine.handle now event).2 ++
      ((engine.handle now event).1.sweepIfDue now).2 ++
      if (engine.pingTimer.poll now).1 then [.sendPing] else []

section GoesOn

variable {engine next : UdpEngine} {now : Instant} {event : Event}
  {effects : List Effect}

theorem pingIfDue_eq_ok (hpinged : engine.pingIfDue now = (.ok next, effects)) :
    next.sessions = engine.sessions ∧
      next.pingTimer = (engine.pingTimer.poll now).2 ∧
      effects = if (engine.pingTimer.poll now).1 then [.sendPing] else [] := by
  unfold pingIfDue at hpinged
  dsimp only at hpinged
  by_cases hdue : (engine.pingTimer.poll now).1
  · rw [if_pos hdue] at hpinged ⊢
    cases honPing : engine.pings.onPing with
    | mk error? pings =>
        rw [honPing] at hpinged
        cases error? with
        | some error => cases hpinged
        | none =>
            cases hpinged
            exact ⟨rfl, rfl, rfl⟩
  · rw [if_neg hdue] at hpinged ⊢
    cases hpinged
    exact ⟨rfl, rfl, rfl⟩

theorem goesOn_of_step (hstep : engine.step now event = (.ok next, effects)) :
    GoesOn engine now event next effects := by
  have htimer :=
    ((engine.handle now event).1.pings_sweepIfDue now).2.trans
      (engine.pingTimer_handle now event)
  unfold step at hstep
  dsimp only at hstep
  cases hpinged : ((engine.handle now event).1.sweepIfDue now).1.pingIfDue
      now with
  | mk outcome pinged =>
      rw [hpinged] at hstep
      cases hstep
      obtain ⟨hsessions, hpoll, heffects⟩ := pingIfDue_eq_ok hpinged
      rw [htimer] at hpoll heffects
      exact ⟨hsessions, hpoll, by rw [heffects]⟩

theorem GoesOn.marks (hgoes : GoesOn engine now event next effects) :
    event.marks ++ effects.filterMap Effect.mark? =
      turnMarks engine.pingTimer now event := by
  rw [hgoes.effects, List.filterMap_append, List.filterMap_append,
    filterMap_mark?_handle, filterMap_mark?_sweepIfDue, turnMarks]
  split <;> rfl

end GoesOn

def lost : ForwardError :=
  .mappingLost "5 consecutive pings unanswered"

theorem onPing_of_lt {state : PingState} (hmax : state.maxMissed = 5)
    (hmissed : state.missed.toNat < 4) :
    state.onPing = (none, { state with missed := state.missed + 1 }) ∧
      (state.missed + 1).toNat = state.missed.toNat + 1 := by
  have hcount : state.missed.toNat + 1 < UInt32.size :=
    Nat.lt_of_le_of_lt hmissed (by decide)
  obtain ⟨honPing, hnext⟩ := PingState.onPing_eq hcount
  have hbelow : ¬ state.maxMissed.toNat ≤ state.missed.toNat + 1 := by
    have hfive : state.maxMissed.toNat = 5 := congrArg UInt32.toNat hmax
    omega
  rw [PingState.loss?, if_neg hbelow] at honPing
  exact ⟨honPing, hnext⟩

theorem onPing_of_eq {state : PingState} (hmax : state.maxMissed = 5)
    (hmissed : state.missed.toNat = 4) : state.onPing.1 = some lost := by
  have hcount : state.missed.toNat + 1 < UInt32.size := by
    rw [hmissed]
    decide
  rw [(PingState.onPing_eq hcount).1, hmax, hmissed]
  rfl

/-- The engine has counted as many unanswered pings as the history has, which
are too few to stop it. -/
structure Counts (history : List Mark) (engine : UdpEngine) : Prop where
  maxMissed : engine.pings.maxMissed = 5
  missed : engine.pings.missed.toNat = unanswered history
  few : unanswered history ≤ 4

theorem counts_start (began : Instant) : Counts [] (start began).1 where
  maxMissed := rfl
  missed := rfl
  few := Nat.zero_le 4

namespace Counts

variable {history : List Mark} {engine : UdpEngine}

theorem handle (hcounts : Counts history engine) (now : Instant)
    (event : Event) :
    Counts (history ++ event.marks) (engine.handle now event).1 := by
  have hpings := engine.pings_handle now event
  unfold Event.marks
  by_cases hpong : event = .atProber Pinhole.pong
  · rw [if_pos hpong] at hpings ⊢
    constructor
    case maxMissed =>
      rw [hpings]
      exact hcounts.maxMissed
    case missed =>
      rw [hpings, unanswered_append_pong]
      rfl
    case few =>
      rw [unanswered_append_pong]
      omega
  · rw [if_neg hpong] at hpings ⊢
    rw [List.append_nil]
    constructor
    case maxMissed =>
      rw [hpings]
      exact hcounts.maxMissed
    case missed =>
      rw [hpings]
      exact hcounts.missed
    case few => exact hcounts.few

theorem sweepIfDue (hcounts : Counts history engine) (now : Instant) :
    Counts history (engine.sweepIfDue now).1 := by
  have hpings := (engine.pings_sweepIfDue now).1
  constructor
  case maxMissed =>
    rw [hpings]
    exact hcounts.maxMissed
  case missed =>
    rw [hpings]
    exact hcounts.missed
  case few => exact hcounts.few

/-- The look at the ping timer extends the history, or the ping that is due is
the fifth in a row. -/
theorem pingIfDue (hcounts : Counts history engine) (now : Instant) :
    (∃ next effects,
        engine.pingIfDue now = (.ok next, effects) ∧
          Counts
            (history ++
              if (engine.pingTimer.poll now).1 then [.ping] else [])
            next) ∨
      ((engine.pingTimer.poll now).1 = true ∧ unanswered history = 4 ∧
        engine.pingIfDue now = (.error lost, [])) := by
  unfold UdpEngine.pingIfDue
  dsimp only
  by_cases hdue : (engine.pingTimer.poll now).1
  · rw [if_pos hdue, if_pos hdue]
    have hmissed := hcounts.missed
    have hfew := hcounts.few
    by_cases hfour : unanswered history = 4
    · right
      have hlost := onPing_of_eq hcounts.maxMissed (by omega)
      refine ⟨hdue, hfour, ?_⟩
      cases honPing : engine.pings.onPing with
      | mk error? pings =>
          rw [honPing] at hlost
          dsimp only at hlost
          rw [hlost]
    · left
      obtain ⟨honPing, hnext⟩ :=
        onPing_of_lt hcounts.maxMissed (by omega)
      rw [honPing]
      refine ⟨_, _, rfl, ?_⟩
      constructor
      case maxMissed => exact hcounts.maxMissed
      case missed =>
        rw [hnext, hmissed]
        exact (unanswered_append_ping history).symm
      case few =>
        rw [unanswered_append_ping]
        omega
  · left
    rw [if_neg hdue, if_neg hdue]
    refine ⟨_, _, rfl, ?_⟩
    rw [List.append_nil]
    exact ⟨hcounts.maxMissed, hcounts.missed, hcounts.few⟩

/-- A turn extends the history by its marks, or it is the last one. -/
theorem step (hcounts : Counts history engine) (now : Instant)
    (event : Event) :
    (∃ next effects,
        engine.step now event = (.ok next, effects) ∧
          Counts (history ++ turnMarks engine.pingTimer now event) next) ∨
      (unanswered (history ++ turnMarks engine.pingTimer now event) = 5 ∧
        ∃ effects,
          engine.step now event = (.error lost, effects) ∧
            effects.filterMap Effect.mark? = []) := by
  have htimer :=
    ((engine.handle now event).1.pings_sweepIfDue now).2.trans
      (engine.pingTimer_handle now event)
  have hpinged := ((hcounts.handle now event).sweepIfDue now).pingIfDue now
  rw [htimer, List.append_assoc] at hpinged
  unfold UdpEngine.step turnMarks
  dsimp only
  rcases hpinged with ⟨next, effects, hpinged, hnext⟩ |
    ⟨hdue, hfour, hpinged⟩
  · left
    rw [hpinged]
    exact ⟨next, _, rfl, hnext⟩
  · right
    rw [hpinged, if_pos hdue, ← List.append_assoc, unanswered_append_ping,
      hfour]
    refine ⟨rfl, _, rfl, ?_⟩
    rw [List.filterMap_append, List.filterMap_append,
      filterMap_mark?_handle, filterMap_mark?_sweepIfDue]
    rfl

end Counts

/-! ## A whole run -/

/-- An engine with a history has handled some events and goes on.  At no time
were five pings due since the last pong, and those that were due are those
that were sent. -/
structure Alive (history : List Mark) (engine : UdpEngine)
    (events : List (Instant × Event)) : Prop where
  running : ∃ next, (engine.run events).1 = .ok next
  few : ∀ seen, seen <+: events →
    unanswered (history ++ marks engine.pingTimer seen) ≤ 4
  sent : (engine.turns events).flatMap Turn.marks =
    marks engine.pingTimer events

section Run

variable {history : List Mark} {engine next : UdpEngine} {now : Instant}
  {event : Event} {effects : List Effect} {later : List (Instant × Event)}

theorem Counts.alive_nil (hcounts : Counts history engine) :
    Alive history engine [] where
  running := ⟨engine, rfl⟩
  few := by
    intro seen hseen
    rw [List.prefix_nil.mp hseen, marks, List.append_nil]
    exact hcounts.few
  sent := rfl

theorem run_cons_of_error {error : ForwardError}
    (hstep : engine.step now event = (.error error, effects)) :
    engine.run ((now, event) :: later) = (.error error, effects) := by
  rw [run, hstep]

theorem Alive.cons (hcounts : Counts history engine)
    (hstep : engine.step now event = (.ok next, effects))
    (halive : Alive (history ++ turnMarks engine.pingTimer now event) next
      later) :
    Alive history engine ((now, event) :: later) where
  running := by
    rw [run_cons_of_ok hstep]
    exact halive.running
  few := by
    intro seen hseen
    rcases List.prefix_cons_iff.mp hseen with rfl | ⟨rest, rfl, hrest⟩
    · rw [marks, List.append_nil]
      exact hcounts.few
    · have hfew := halive.few rest hrest
      rwa [(goesOn_of_step hstep).pingTimer, List.append_assoc] at hfew
  sent := by
    have hturn : Turn.marks ⟨engine, now, event⟩ =
        turnMarks engine.pingTimer now event := by
      rw [Turn.marks, Turn.effects]
      dsimp only
      rw [hstep]
      exact (goesOn_of_step hstep).marks
    rw [turns, hstep, List.flatMap_cons, hturn, marks,
      ← (goesOn_of_step hstep).pingTimer]
    dsimp only
    rw [halive.sent]

/-- A run goes on, or its last turn was the one with the fifth ping. -/
theorem Counts.run (hcounts : Counts history engine)
    (events : List (Instant × Event)) :
    Alive history engine events ∨
      ∃ handled last unread final,
        events = handled ++ last :: unread ∧
          Alive history engine handled ∧
          unanswered
              (history ++ marks engine.pingTimer (handled ++ [last])) = 5 ∧
          engine.run events =
            (.error lost, (engine.run handled).2 ++ final) ∧
          final.filterMap Effect.mark? = [] := by
  induction events generalizing history engine with
  | nil => exact Or.inl hcounts.alive_nil
  | cons entry later ih =>
      obtain ⟨now, event⟩ := entry
      rcases hcounts.step now event with ⟨next, effects, hstep, hnext⟩ |
        ⟨hfive, final, hstep, hfinal⟩
      · rcases ih hnext with halive |
          ⟨handled, last, unread, final, rfl, halive, hfive, hrun, hfinal⟩
        · exact Or.inl (halive.cons hcounts hstep)
        · right
          refine ⟨(now, event) :: handled, last, unread, final, rfl,
            halive.cons hcounts hstep, ?_, ?_, hfinal⟩
          · rwa [(goesOn_of_step hstep).pingTimer, List.append_assoc] at hfive
          · rw [run_cons_of_ok hstep, run_cons_of_ok hstep, hrun,
              List.append_assoc]
      · right
        refine ⟨[], (now, event), later, final, rfl, hcounts.alive_nil, ?_,
          ?_, hfinal⟩
        · rw [List.nil_append, marks, marks, List.append_nil]
          exact hfive
        · exact run_cons_of_error hstep

end Run

/-! ## How many pings are sent -/

theorem count_sendPing (effects : List Effect) :
    effects.count .sendPing =
      (effects.filterMap Effect.mark?).count .ping := by
  induction effects with
  | nil => rfl
  | cons effect effects ih =>
      rw [List.filterMap_cons]
      cases effect <;> simp [Effect.mark?, ih]

theorem Turn.count_marks (turn : Turn) :
    turn.marks.count .ping = turn.effects.count .sendPing := by
  have hevent : turn.event.marks.count .ping = 0 := by
    unfold Event.marks
    split <;> rfl
  rw [Turn.marks, List.count_append, hevent, Nat.zero_add, count_sendPing]

theorem Alive.count_sendPing {history : List Mark} {engine : UdpEngine}
    {events : List (Instant × Event)}
    (halive : Alive history engine events) :
    (engine.run events).2.count .sendPing =
      (marks engine.pingTimer events).count .ping := by
  rw [effects_run, ← halive.sent, List.count_flatMap, List.count_flatMap]
  congr 1
  apply List.map_congr_left
  intro turn _
  exact turn.count_marks.symm

/-- An engine that was started stops at the fifth firing of its ping timer
since the last pong, if there is one, and at nothing else.  It sends three
pings at its start and one at every firing but the last. -/
theorem run_lifetime (began : Instant) (events : List (Instant × Event)) :
    let engine := (start began).1
    let greeting := (start began).2
    let history := marks (.start pingInterval began)
    (Alive [] engine events ∧
        (greeting ++ (engine.run events).2).count .sendPing =
          3 + (history events).count .ping) ∨
      ∃ handled last unread,
        events = handled ++ last :: unread ∧
          Alive [] engine handled ∧
          unanswered (history (handled ++ [last])) = 5 ∧
          (engine.run events).1 =
            .error (.mappingLost "5 consecutive pings unanswered") ∧
          (greeting ++ (engine.run events).2).count .sendPing =
            3 + (history handled).count .ping := by
  intro engine greeting history
  have hgreeting : greeting.count .sendPing = 3 := rfl
  rcases (counts_start began).run events with halive |
    ⟨handled, last, unread, final, hevents, halive, hfive, hrun, hfinal⟩
  · left
    refine ⟨halive, ?_⟩
    rw [List.count_append, hgreeting, halive.count_sendPing]
    rfl
  · right
    refine ⟨handled, last, unread, hevents, halive, hfive, ?_, ?_⟩
    · rw [hrun]
      rfl
    · have hnone : final.count .sendPing = 0 := by
        rw [UdpEngine.count_sendPing, hfinal]
        rfl
      rw [hrun, List.count_append, hgreeting, List.count_append,
        halive.count_sendPing, hnone]
      rfl

end UdpEngine

end Pinhole
