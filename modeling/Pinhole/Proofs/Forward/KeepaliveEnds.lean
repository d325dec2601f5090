import Pinhole.Proofs.Forward.ConnectionRouting

/-!
# The two ends of a TCP keepalive

What the prober did last, and when the responder began to wait, say all there
is to say of the two.  Each turn of the engine either leaves this as it is, or
tells what was done next, or it is the end of one of them.
-/

namespace Pinhole

namespace TcpEngine

/-! ## What the two ends do -/

/-- What the prober does or waits for. -/
inductive Mark where
  | dial
  | ping
  | reply
deriving DecidableEq

/-- Something was read that may be an answer to a ping. -/
def Event.isReply : Event → Bool
  | .atProber .data => true
  | _ => false

def marked (entry : Instant × Event × List Effect) : List (Instant × Mark) :=
  if .sendPing ∈ entry.2.2 then [(entry.1, .ping)]
  else if entry.2.1.isReply then [(entry.1, .reply)]
  else []

def waited (entry : Instant × Event × List Effect) : List Instant :=
  match entry.2.1 with
  | .accepted connection =>
      if .connectTarget connection ∈ entry.2.2 then [] else [entry.1]
  | .atResponder .data => [entry.1]
  | _ => []

/-- When the prober has to do something. -/
def due : Instant × Mark → Instant
  | (since, .dial) | (since, .ping) => since + Duration.seconds 3
  | (since, .reply) => since + Duration.seconds 1

/-- The prober is told of its connection once it is dialled, and while it waits
for an answer, and of nothing once it has ended; time is told to both ends
alike. -/
def ToldProber (doing? : Option Mark) : Event → Prop
  | .dialled _ | .atProber (.unprepared _) => doing? = some .dial
  | .atProber .tick => False
  | .atProber _ => doing? = some .ping
  | .accepted _ | .acceptFailed _ | .atResponder _ | .atSplice .. | .tick =>
      True

def ToldResponder (since? : Option Instant) : Event → Prop
  | .atResponder .tick => False
  | .atResponder _ => since?.isSome = true
  | .dialled _ | .atProber _ | .accepted _ | .acceptFailed _ | .atSplice ..
  | .tick => True

/-- The events at which a ping is sent. -/
inductive Pings (mark : Instant × Mark) : Instant × Event → Prop
  | dialled {now : Instant} : Pings mark (now, .dialled (.ok ()))
  | rested {read now : Instant} (hmark : mark = (read, .reply))
      (hrested : read + Duration.seconds 1 ≤ now) : Pings mark (now, .tick)

/-- The events at which the responder ends. -/
inductive EndsResponder (since : Instant) :
    Instant × Event → ForwardError → Prop
  | unprepared {now cause} :
      EndsResponder since (now, .atResponder (.unprepared cause))
        (.system cause)
  | closed {now} :
      EndsResponder since (now, .atResponder .ended)
        (.lost "pong responder" "ping connection closed")
  | readFailed {now cause} :
      EndsResponder since (now, .atResponder (.readFailed cause))
        (.lost "pong responder" cause.text)
  | writeFailed {now cause} :
      EndsResponder since (now, .atResponder (.writeFailed cause))
        (.lost "pong responder" cause.text)
  | unasked {now : Instant} (hlate : since + Duration.seconds 15 ≤ now) :
      EndsResponder since (now, .tick)
        (.lost "pong responder" "no ping within 15s")

/-! ## The prober -/

/-- The prober that did this last. -/
def proberOf : Instant × Mark → PingProber
  | (since, .dial) => .start since
  | (since, .ping) => .waiting (since + PingProber.replyLimit)
  | (since, .reply) => .resting (since + pingInterval)

/-- Whether an event makes a prober send a ping. -/
def sendsPing (prober : PingProber) : Instant × Event → Bool
  | (now, .dialled outcome) => (prober.connected now outcome).2
  | (now, .atProber event) => (prober.step now event).2
  | (now, .tick) => (prober.step now .tick).2
  | (_, .accepted _) | (_, .acceptFailed _) | (_, .atResponder _)
  | (_, .atSplice ..) => false

section Prober

variable {mark : Instant × Mark} {entry : Instant × Event}

theorem proberTurn_tick (mark : Instant × Mark) (now : Instant) :
    proberTurn (proberOf mark) (now, .tick) =
      if due mark ≤ now then
        match mark.2 with
        | .dial => .error (PingProber.unreachable "connect timed out")
        | .ping => .error (.lost "ping prober" "no pong within 3s")
        | .reply => .ok (proberOf (now, .ping))
      else .ok (proberOf mark) := by
  obtain ⟨since, kind⟩ := mark
  by_cases hdue : due (since, kind) ≤ now
  · rw [if_pos hdue]
    cases kind <;> exact congrArg Prod.fst (if_pos hdue)
  · rw [if_neg hdue]
    cases kind <;> exact congrArg Prod.fst (if_neg hdue)

theorem sendsPing_tick (mark : Instant × Mark) (now : Instant) :
    sendsPing (proberOf mark) (now, .tick) =
      if due mark ≤ now then decide (mark.2 = .reply) else false := by
  obtain ⟨since, kind⟩ := mark
  by_cases hdue : due (since, kind) ≤ now
  · rw [if_pos hdue]
    cases kind <;> exact congrArg Prod.snd (if_pos hdue)
  · rw [if_neg hdue]
    cases kind <;> exact congrArg Prod.snd (if_neg hdue)

theorem sendsPing_iff (htold : ToldProber (some mark.2) entry.2) :
    sendsPing (proberOf mark) entry = true ↔ Pings mark entry := by
  obtain ⟨since, kind⟩ := mark
  obtain ⟨now, event⟩ := entry
  cases event with
  | dialled outcome =>
      obtain rfl : kind = .dial := Option.some.inj htold
      cases outcome with
      | error cause => constructor <;> nofun
      | ok connected => exact iff_of_true rfl .dialled
  | atProber event =>
      cases event with
      | unprepared cause =>
          obtain rfl : kind = .dial := Option.some.inj htold
          constructor <;> nofun
      | tick => exact htold.elim
      | _ =>
          obtain rfl : kind = .ping := Option.some.inj htold
          constructor <;> nofun
  | tick =>
      rw [sendsPing_tick]
      by_cases hdue : due (since, kind) ≤ now
      · rw [if_pos hdue, decide_eq_true_iff]
        constructor
        · intro hkind
          subst (hkind : kind = .reply)
          exact .rested rfl hdue
        · rintro (- | ⟨⟨⟩, -⟩)
          rfl
      · rw [if_neg hdue]
        constructor
        · nofun
        · rintro (- | ⟨⟨⟩, hrested⟩)
          exact absurd hrested hdue
  | accepted connection => constructor <;> nofun
  | acceptFailed cause => constructor <;> nofun
  | atResponder event => constructor <;> nofun
  | atSplice connection event => constructor <;> nofun

/-- The prober goes on with what it did in the turn, if that was anything. -/
theorem proberTurn_of_ok (htold : ToldProber (some mark.2) entry.2)
    {next : PingProber} {turn : List Effect}
    (hping : .sendPing ∈ turn ↔ sendsPing (proberOf mark) entry = true)
    (hstep : proberTurn (proberOf mark) entry = .ok next) :
    next = proberOf ((marked (entry.1, entry.2, turn)).getLastD mark) := by
  obtain ⟨since, kind⟩ := mark
  obtain ⟨now, event⟩ := entry
  rw [marked]
  simp only [hping]
  cases event with
  | dialled outcome =>
      obtain rfl : kind = .dial := Option.some.inj htold
      cases outcome with
      | error cause => cases hstep
      | ok connected =>
          cases hstep
          rfl
  | atProber event =>
      cases event with
      | data =>
          obtain rfl : kind = .ping := Option.some.inj htold
          cases hstep
          rfl
      | unprepared cause =>
          obtain rfl : kind = .dial := Option.some.inj htold
          cases hstep
      | tick => exact htold.elim
      | _ =>
          obtain rfl : kind = .ping := Option.some.inj htold
          cases hstep
  | tick =>
      rw [proberTurn_tick] at hstep
      rw [sendsPing_tick]
      by_cases hdue : due (since, kind) ≤ now
      · rw [if_pos hdue] at hstep ⊢
        cases kind <;> cases hstep
        rfl
      · rw [if_neg hdue] at hstep ⊢
        cases hstep
        rfl
  | accepted connection =>
      cases hstep
      rfl
  | acceptFailed cause =>
      cases hstep
      rfl
  | atResponder event =>
      cases hstep
      rfl
  | atSplice connection event =>
      cases hstep
      rfl

end Prober

/-! ## The responder -/

section Responder

variable {engine next : TcpEngine} {earlier : Nat} {since? : Option Instant}
  {since : Instant} {entry : Instant × Event}

theorem responderTurn_tick (since now : Instant) :
    responderTurn (.start since) (now, .tick) =
      if since + Duration.seconds 15 ≤ now then
        .error (.lost "pong responder" "no ping within 15s")
      else .ok (.start since) := by
  by_cases hlate : since + Duration.seconds 15 ≤ now
  · rw [if_pos hlate]
    exact congrArg Prod.fst (if_pos hlate)
  · rw [if_neg hlate]
    exact congrArg Prod.fst (if_neg hlate)

theorem EndsResponder.wakes {error : ForwardError}
    (hends : EndsResponder since entry error) : entry.2.wakes = true := by
  cases hends <;> rfl

theorem responderTurn_of_ok (htold : ToldResponder (some since) entry.2)
    {responder : PongResponder} (turn : List Effect)
    (haccepted : entry.2.accepted? = none)
    (hstep : responderTurn (.start since) entry = .ok responder) :
    responder =
      .start ((waited (entry.1, entry.2, turn)).getLastD since) := by
  obtain ⟨now, event⟩ := entry
  cases event with
  | atResponder event =>
      cases event with
      | data =>
          cases hstep
          rfl
      | tick => exact htold.elim
      | _ => cases hstep
  | tick =>
      rw [responderTurn_tick] at hstep
      split at hstep
      · cases hstep
      · cases hstep
        rfl
  | accepted connection => cases haccepted
  | acceptFailed cause =>
      cases hstep
      rfl
  | dialled outcome =>
      cases hstep
      rfl
  | atProber event =>
      cases hstep
      rfl
  | atSplice connection event =>
      cases hstep
      rfl

theorem connectTarget_mem_iff {now : Instant} {connection : ConnectionId}
    {turn : List Effect}
    (hconnected : turn.filterMap Effect.connected? =
      forwarded earlier (accepted [(now, .accepted connection)])) :
    .connectTarget connection ∈ turn ↔ routeOf earlier = .target := by
  have hmem : .connectTarget connection ∈ turn ↔
      connection ∈ forwarded earlier [connection] := by
    have haccepted : accepted [(now, .accepted connection)] =
        [connection] := rfl
    rw [← haccepted, ← hconnected, List.mem_filterMap]
    constructor
    · intro hmem
      exact ⟨_, hmem, rfl⟩
    · rintro ⟨effect, hmem, heffect⟩
      cases effect <;> cases heffect
      exact hmem
  rw [hmem]
  cases hroute : routeOf earlier <;> simp [forwarded, hroute]

/-- A responder that runs waits since the turn if it was handed a connection in
it or read something, and since it did before otherwise. -/
theorem responderAfter_eq_ok
    {task? : Option (Except ForwardError PongResponder)}
    {after : PongResponder} {turn : List Effect}
    (hbefore : ∀ before, task? = some (.ok before) →
      ∃ since, since? = some since ∧ before = .start since)
    (htold : ∀ before, task? = some (.ok before) →
      ToldResponder since? entry.2)
    (hconnected : turn.filterMap Effect.connected? =
      forwarded earlier (accepted [entry]))
    (hstep : responderAfter earlier task? [entry] = some (.ok after)) :
    ∃ since, (waited (entry.1, entry.2, turn)).getLast?.or since? =
        some since ∧ after = .start since := by
  obtain ⟨now, event⟩ := entry
  cases haccepted : event.accepted? with
  | some connection =>
      have hevent : event = .accepted connection := by
        cases event <;> cases haccepted
        rfl
      subst hevent
      have hmem := connectTarget_mem_iff hconnected
      rw [responderAfter] at hstep
      cases hroute : routeOf earlier with
      | keepalive =>
          rw [hroute] at hstep
          cases hstep
          exact ⟨now, by simp [waited, hmem, hroute], rfl⟩
      | target =>
          rw [hroute] at hstep
          obtain ⟨since, hsince, hstart⟩ := hbefore after hstep
          exact ⟨since, by simp [waited, hmem, hroute, hsince], hstart⟩
  | none =>
      rw [responderAfter_singleton haccepted, Option.map_eq_some_iff] at hstep
      obtain ⟨task, hthere, hturn⟩ := hstep
      cases task with
      | error error => cases hturn
      | ok before =>
          obtain ⟨since, hsince, rfl⟩ := hbefore before hthere
          have htoldSome := htold _ hthere
          rw [hsince] at htoldSome ⊢
          have hafter := responderTurn_of_ok htoldSome turn haccepted hturn
          rw [List.getLastD_eq_getLast?] at hafter
          refine ⟨_, ?_, hafter⟩
          cases (waited (now, event, turn)).getLast? <;> rfl

end Responder

end TcpEngine

end Pinhole
