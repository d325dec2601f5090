import Mathlib.Data.List.Infix
import Pinhole.Proofs.Forward.ConnectionView
import Pinhole.Proofs.Forward.PipeBytes

/-!
# What spliced connections carry

The two pipes of a connection hold what was read and is not yet written, at
every moment until its splice ends.  The splice ends in the turn in which one
of them has nothing left to do, or fails, and after that the connection is left
alone.
-/

namespace Pinhole

namespace TcpEngine

/-! ## What goes in and out -/

def Event.readAt (connection : ConnectionId) (direction : Direction) :
    Event → Bytes
  | .atSplice other (.pipe way event) =>
      if other = connection ∧ way = direction then event.bytes else []
  | _ => []

def Effect.writtenAt (connection : ConnectionId) (direction : Direction) :
    Effect → Bytes
  | .write other way bytes =>
      if other = connection ∧ way = direction then bytes else []
  | _ => []

/-- All that was read in one direction of a connection. -/
def received (connection : ConnectionId) (direction : Direction)
    (events : List (Instant × Event)) : Bytes :=
  events.flatMap fun entry => entry.2.readAt connection direction

/-- All that was written in one direction of a connection. -/
def delivered (connection : ConnectionId) (direction : Direction)
    (effects : List Effect) : Bytes :=
  effects.flatMap (Effect.writtenAt connection direction)

/-- The splice of a connection was told of an event. -/
def Told (connection : ConnectionId) (event : Splice.Event)
    (events : List (Instant × Event)) : Prop :=
  ∃ now, (now, Event.atSplice connection event) ∈ events

/-- A connection was spliced and not closed since. -/
def Open (connection : ConnectionId) (effects : List Effect) : Prop :=
  .connectTarget connection ∈ effects ∧ .close connection ∉ effects

/-- What the system can report next: it accepts a connection once, connects it
to the target once, and only then reads and writes, up to the end of the
stream.  Time passes for all splices alike. -/
def Orderly (handled : List (Instant × Event)) : Event → Prop
  | .accepted connection => connection ∉ accepted handled
  | .atSplice connection (.connected _) =>
      connection ∈ accepted handled ∧
        ∀ success, ¬Told connection (.connected success) handled
  | .atSplice connection (.pipe direction event) =>
      Told connection (.connected true) handled ∧
        ∀ bytes, event = .read bytes →
          ¬Told connection (.pipe direction .endOfStream) handled
  | .atSplice _ .tick => False
  | .dialled _ | .atProber _ | .acceptFailed _ | .atResponder _ | .tick => True

/-- Everything was reported in an order that is possible. -/
def Reported (events : List (Instant × Event)) : Prop :=
  Throughout (fun handled last => Orderly handled last.2) events

/-- An event is a failure of a connection's splice. -/
inductive Fails (connection : ConnectionId)
    (handled : List (Instant × Event)) : Instant × Event → Prop
  | unreachable {now : Instant} : Fails connection handled
      (now, .atSplice connection (.connected false))
  | timedOut {now since : Instant}
      (haccepted : (since, .accepted connection) ∈ handled)
      (hunconnected :
        ∀ success, ¬Told connection (.connected success) handled)
      (hlate : since + Splice.connectLimit ≤ now) :
      Fails connection handled (now, .tick)
  | pipe {now direction event} (hfails : event.Fails) :
      Fails connection handled
        (now, .atSplice connection (.pipe direction event))

/-- A splice fails, or all that was received in one direction before the end
of the stream is delivered. -/
inductive Finishes (connection : ConnectionId)
    (handled : List (Instant × Event)) (last : Instant × Event)
    (effects : List Effect) : Prop
  | failed (hfails : Fails connection handled last)
  | copied (direction)
      (hended : Told connection (.pipe direction .endOfStream)
        (handled ++ [last]))
      (hall : delivered connection direction effects =
        received connection direction (handled ++ [last]))

section Seen

variable {connection : ConnectionId} {direction : Direction}

theorem open_concerning_iff {effects : List Effect} :
    Open connection (concerning connection effects) ↔
      Open connection effects := by
  rw [Open, mem_concerning_iff rfl, mem_concerning_iff rfl, Open]

theorem writtenAt_of_apart {effect : Effect}
    (hapart : effect.connection? ≠ some connection) :
    effect.writtenAt connection direction = [] := by
  cases effect with
  | write other way bytes =>
      rw [Effect.writtenAt, if_neg]
      rintro ⟨rfl, -⟩
      exact hapart rfl
  | _ => rfl

theorem delivered_concerning (effects : List Effect) :
    delivered connection direction (concerning connection effects) =
      delivered connection direction effects := by
  induction effects with
  | nil => rfl
  | cons effect effects ih =>
      unfold delivered concerning at *
      by_cases heffect : effect.connection? = some connection
      · rw [List.filter_cons_of_pos (by simpa using heffect),
          List.flatMap_cons, ih, List.flatMap_cons]
      · rw [List.filter_cons_of_neg (by simpa using heffect), ih,
          List.flatMap_cons, writtenAt_of_apart heffect, List.nil_append]

theorem delivered_append (effects later : List Effect) :
    delivered connection direction (effects ++ later) =
      delivered connection direction effects ++
        delivered connection direction later :=
  List.flatMap_append

theorem received_concat (events : List (Instant × Event))
    (entry : Instant × Event) :
    received connection direction (events ++ [entry]) =
      received connection direction events ++
        entry.2.readAt connection direction := by
  rw [received, List.flatMap_append, List.flatMap_singleton]
  rfl

theorem told_concat_iff {event : Splice.Event}
    {events : List (Instant × Event)} {entry : Instant × Event} :
    Told connection event (events ++ [entry]) ↔
      Told connection event events ∨
        entry.2 = .atSplice connection event := by
  obtain ⟨now, last⟩ := entry
  simp only [Told, List.mem_append, List.mem_singleton, Prod.mk.injEq]
  constructor
  · rintro ⟨time, hmem | ⟨-, rfl⟩⟩
    · exact Or.inl ⟨time, hmem⟩
    · exact Or.inr rfl
  · rintro (⟨time, hmem⟩ | hlast)
    · exact ⟨time, Or.inl hmem⟩
    · exact ⟨now, Or.inr ⟨rfl, hlast.symm⟩⟩

theorem mem_accepted_of_mem {now : Instant} {events : List (Instant × Event)}
    (hmem : (now, .accepted connection) ∈ events) :
    connection ∈ accepted events :=
  List.mem_filterMap.mpr ⟨_, hmem, rfl⟩

section Apart

variable {events : List (Instant × Event)} {entry : Instant × Event}
  (hapart : entry.2.connection? ≠ some connection)

include hapart

theorem readAt_of_apart : entry.2.readAt connection direction = [] := by
  obtain ⟨now, event⟩ := entry
  cases event with
  | atSplice other event =>
      have hother : other ≠ connection := fun h => hapart (congrArg some h)
      cases event <;> simp [Event.readAt, hother]
  | _ => rfl

theorem received_concat_of_apart :
    received connection direction (events ++ [entry]) =
      received connection direction events := by
  rw [received_concat, readAt_of_apart hapart, List.append_nil]

theorem told_concat_iff_of_apart {event : Splice.Event} :
    Told connection event (events ++ [entry]) ↔
      Told connection event events := by
  rw [told_concat_iff, or_iff_left]
  intro hlast
  rw [hlast] at hapart
  exact hapart rfl

theorem mem_accepted_concat_iff_of_apart :
    connection ∈ accepted (events ++ [entry]) ↔
      connection ∈ accepted events := by
  obtain ⟨now, event⟩ := entry
  rw [accepted_append, List.mem_append, or_iff_left]
  cases event with
  | accepted other =>
      have hother : connection ≠ other :=
        fun h => hapart (congrArg some h.symm)
      simpa [accepted, Event.accepted?] using hother
  | _ => simp [accepted, Event.accepted?]

end Apart

end Seen

/-! ## The course of one connection -/

/-- What is known of a connection after all events, from its effects: what its
splice is, and that it left nothing behind when it ended. -/
inductive Follows (connection : ConnectionId)
    (events : List (Instant × Event)) (effects : List Effect) :
    List (ConnectionId × Splice) → Prop
  | unseen (hnew : connection ∉ accepted events) (hnothing : effects = []) :
      Follows connection events effects []
  | gone (hseen : connection ∈ accepted events)
      (hclosed : effects = [] ∨
        ∃ earlier, effects = earlier ++ [.close connection] ∧
          .close connection ∉ earlier)
      (hbytes : ∀ direction, delivered connection direction effects <+:
        received connection direction events) :
      Follows connection events effects []
  | connecting {since : Instant}
      (hseen : (since, .accepted connection) ∈ events)
      (honce : ∀ time, (time, .accepted connection) ∈ events → time = since)
      (hunconnected :
        ∀ success, ¬Told connection (.connected success) events)
      (hnothing : effects = [.connectTarget connection]) :
      Follows connection events effects [(connection, .start since)]
  | copying {pipes} (hseen : connection ∈ accepted events)
      (hconnected : Told connection (.connected true) events)
      (hopen : Open connection effects)
      (hpipes : ∀ direction, (pipes direction).Holds
        (received connection direction events)
        (delivered connection direction effects)
        (Told connection (.pipe direction .endOfStream) events)) :
      Follows connection events effects [(connection, .ofPipes pipes)]

/-- A turn leaves a connection alone, or it ends its splice for a reason. -/
structure Passes (connection : ConnectionId)
    (handled : List (Instant × Event)) (before : List Effect)
    (last : Instant × Event) (splices : List (ConnectionId × Splice))
    (turn : List Effect) : Prop where
  follows :
    Follows connection (handled ++ [last]) (before ++ turn) splices
  closes : .close connection ∈ turn → Open connection before ∧
    Finishes connection handled last (before ++ turn)
  fails : Open connection before → Fails connection handled last →
    .close connection ∈ turn

section Course

variable {connection : ConnectionId} {handled : List (Instant × Event)}
  {before turn : List Effect} {last : Instant × Event}
  {splices : List (ConnectionId × Splice)}

theorem Reported.of_append {events later : List (Instant × Event)}
    (hreported : Reported (events ++ later)) : Reported events :=
  Throughout.of_append hreported

theorem Reported.orderly (hreported : Reported (handled ++ [last])) :
    Orderly handled last.2 :=
  Throughout.last hreported

theorem Reported.connected_of_piped {events : List (Instant × Event)}
    (hreported : Reported events) {now : Instant} {direction : Direction}
    {event : PipeEvent}
    (hmem : (now, .atSplice connection (.pipe direction event)) ∈ events) :
    Told connection (.connected true) events := by
  obtain ⟨handled, unread, rfl⟩ := List.append_of_mem hmem
  obtain ⟨time, htime⟩ := (hreported handled _ unread rfl).1
  exact ⟨time, List.mem_append_left _ htime⟩

theorem received_of_unconnected {events : List (Instant × Event)}
    (hreported : Reported events)
    (hunconnected : ¬Told connection (.connected true) events)
    (direction : Direction) : received connection direction events = [] := by
  rw [received, List.flatMap_eq_nil_iff]
  rintro ⟨now, event⟩ hmem
  cases event with
  | atSplice other event =>
      cases event with
      | pipe way event =>
          rw [Event.readAt, if_neg]
          rintro ⟨rfl, rfl⟩
          exact hunconnected (hreported.connected_of_piped hmem)
      | _ => rfl
  | _ => rfl

theorem Follows.not_open_of_nil
    (hfollows : Follows connection handled before []) :
    ¬Open connection before := by
  rintro ⟨hconnected, hclosed⟩
  cases hfollows with
  | unseen _ hnothing =>
      rw [hnothing] at hconnected
      cases hconnected
  | gone _ hgone =>
      rcases hgone with rfl | ⟨earlier, rfl, -⟩
      · cases hconnected
      · exact hclosed (List.mem_append_right _ (List.mem_singleton_self _))

/-- A connection that is open would not be if it had nothing left to do. -/
theorem Follows.not_copied {events : List (Instant × Event)}
    {effects : List Effect}
    (hfollows : Follows connection events effects splices)
    (hreported : Reported events) (hopen : Open connection effects)
    {direction : Direction}
    (hended : Told connection (.pipe direction .endOfStream) events) :
    delivered connection direction effects ≠
      received connection direction events := by
  intro hall
  have hcourse := hfollows
  cases hfollows with
  | unseen | gone => exact hcourse.not_open_of_nil hopen
  | connecting hseen honce hunconnected hnothing =>
      obtain ⟨now, hmem⟩ := hended
      exact hunconnected true (hreported.connected_of_piped hmem)
  | copying hseen hconnected hopen hpipes =>
      have hbytes := (hpipes direction).bytes
      rw [← hall, List.self_eq_append_right] at hbytes
      exact (hpipes direction).unfinished hended hbytes

/-- Nothing that is not about a connection changes what is known of it. -/
theorem Follows.apart (hfollows : Follows connection handled before splices)
    (hapart : last.2.connection? ≠ some connection) :
    Follows connection (handled ++ [last]) before splices := by
  have hmem : ∀ time, (time, Event.accepted connection) ∈
      handled ++ [last] → (time, .accepted connection) ∈ handled := by
    intro time htime
    rcases List.mem_append.mp htime with htime | htime
    · exact htime
    · rw [← List.mem_singleton.mp htime] at hapart
      exact absurd rfl hapart
  cases hfollows with
  | unseen hnew hnothing =>
      exact .unseen (mt (mem_accepted_concat_iff_of_apart hapart).mp hnew)
        hnothing
  | gone hseen hclosed hbytes =>
      refine .gone ((mem_accepted_concat_iff_of_apart hapart).mpr hseen)
        hclosed fun direction => ?_
      rw [received_concat_of_apart hapart]
      exact hbytes direction
  | connecting hseen honce hunconnected hnothing =>
      refine .connecting (List.mem_append_left _ hseen)
        (fun time htime => honce time (hmem time htime))
        (fun success => ?_) hnothing
      rw [told_concat_iff_of_apart hapart]
      exact hunconnected success
  | copying hseen hconnected hopen hpipes =>
      refine .copying ((mem_accepted_concat_iff_of_apart hapart).mpr hseen)
        ((told_concat_iff_of_apart hapart).mpr hconnected) hopen
        fun direction => ?_
      rw [received_concat_of_apart hapart, told_concat_iff_of_apart hapart]
      exact hpipes direction

theorem Reported.accepted_of_connected {events : List (Instant × Event)}
    (hreported : Reported events) {success : Bool}
    (htold : Told connection (.connected success) events) :
    connection ∈ accepted events := by
  obtain ⟨now, hmem⟩ := htold
  obtain ⟨handled, unread, rfl⟩ := List.append_of_mem hmem
  rw [accepted_append, List.mem_append]
  exact Or.inl (hreported handled _ unread rfl).1

theorem Follows.eq_nil_of_new
    (hfollows : Follows connection handled before splices)
    (hnew : connection ∉ accepted handled) : splices = [] ∧ before = [] := by
  cases hfollows with
  | unseen _ hnothing => exact ⟨rfl, hnothing⟩
  | gone hseen => exact absurd hseen hnew
  | connecting hseen => exact absurd (mem_accepted_of_mem hseen) hnew
  | copying hseen => exact absurd hseen hnew

theorem passes_kept {now : Instant}
    (hreported : Reported (handled ++ [(now, .accepted connection)]))
    (hfollows : Follows connection handled before splices) :
    Passes connection handled before (now, .accepted connection) splices
      [] := by
  obtain ⟨rfl, rfl⟩ := hfollows.eq_nil_of_new hreported.orderly
  exact
    { follows := .gone (mem_accepted_of_mem (List.mem_concat_self))
        (Or.inl rfl) fun _ => List.nil_prefix
      closes := nofun
      fails := nofun }

theorem passes_spliced {now : Instant}
    (hreported : Reported (handled ++ [(now, .accepted connection)]))
    (hfollows : Follows connection handled before splices) :
    Passes connection handled before (now, .accepted connection)
      (splices ++ [(connection, .start now)])
      [.connectTarget connection] := by
  have hnew : connection ∉ accepted handled := hreported.orderly
  obtain ⟨rfl, rfl⟩ := hfollows.eq_nil_of_new hnew
  have honce : ∀ time, (time, Event.accepted connection) ∈
      handled ++ [(now, .accepted connection)] → time = now := by
    intro time htime
    rcases List.mem_append.mp htime with htime | htime
    · exact absurd (mem_accepted_of_mem htime) hnew
    · exact congrArg Prod.fst (List.mem_singleton.mp htime)
  have hunconnected : ∀ success, ¬Told connection (.connected success)
      (handled ++ [(now, .accepted connection)]) := by
    intro success htold
    rw [told_concat_iff, or_iff_left nofun] at htold
    exact hnew (hreported.of_append.accepted_of_connected htold)
  exact
    { follows := .connecting List.mem_concat_self honce hunconnected rfl
      closes := by simp
      fails := nofun }

/-- A turn that leaves a connection as it is. -/
theorem Passes.of_apart
    (hfollows : Follows connection handled before splices)
    (hapart : last.2.connection? ≠ some connection)
    (hfails : Open connection before → ¬Fails connection handled last) :
    Passes connection handled before last splices [] where
  follows := by
    rw [List.append_nil]
    exact hfollows.apart hapart
  closes := nofun
  fails := fun hopen hfailed => absurd hfailed (hfails hopen)

/-- What is reported of a connection that has no splice is lost. -/
theorem passes_told_nil {now : Instant} {event : Splice.Event}
    (hfollows : Follows connection handled before []) :
    Passes connection handled before (now, .atSplice connection event) []
      [] where
  follows := by
    have hsame : accepted (handled ++ [(now, .atSplice connection event)]) =
        accepted handled := by
      rw [accepted_append]
      exact List.append_nil _
    rw [List.append_nil]
    cases hfollows with
    | unseen hnew hnothing => exact .unseen (hsame ▸ hnew) hnothing
    | gone hseen hclosed hbytes =>
        refine .gone (hsame ▸ hseen) hclosed fun direction => ?_
        rw [received_concat]
        exact (hbytes direction).trans (List.prefix_append _ _)
  closes := nofun
  fails := fun hopen => absurd hopen hfollows.not_open_of_nil

/-- The end of a splice, when nothing was delivered that was not received. -/
theorem follows_gone {written : List (Direction × Bytes)}
    (hopen : Open connection before)
    (hseen : connection ∈ accepted (handled ++ [last]))
    (hbytes : ∀ direction,
      delivered connection direction
          (before ++ (writes connection written ++ [.close connection])) <+:
        received connection direction (handled ++ [last])) :
    Follows connection (handled ++ [last])
      (before ++ (writes connection written ++ [.close connection])) [] := by
  refine .gone hseen (Or.inr ⟨before ++ writes connection written,
    (List.append_assoc _ _ _).symm, ?_⟩) hbytes
  rw [List.mem_append, not_or]
  exact ⟨hopen.2, close_notMem_writes⟩

theorem passes_connected {now since : Instant} {success : Bool}
    (hreported : Reported
      (handled ++ [(now, .atSplice connection (.connected success))]))
    (hseen : connection ∈ accepted handled)
    (hunconnected : ∀ success, ¬Told connection (.connected success) handled) :
    Passes connection handled [.connectTarget connection]
      (now, .atSplice connection (.connected success))
      (stepSplice now (.connected success) (connection, .start since)).1
      (stepSplice now (.connected success) (connection, .start since)).2 := by
  have hopen : Open connection [.connectTarget connection] :=
    ⟨List.mem_singleton_self _, by simp⟩
  have hseenAfter : connection ∈ accepted (handled ++
      [(now, .atSplice connection (.connected success))]) := by
    rw [accepted_append]
    exact List.mem_append_left _ hseen
  cases success with
  | false =>
      exact
        { follows := follows_gone hopen hseenAfter fun _ => List.nil_prefix
          closes := fun _ => ⟨hopen, .failed .unreachable⟩
          fails := fun _ _ => List.mem_singleton_self _ }
  | true =>
      have hnothing := received_of_unconnected hreported.of_append
        (hunconnected true)
      have hcopying : Follows connection
          (handled ++ [(now, .atSplice connection (.connected true))])
          [.connectTarget connection]
          [(connection, .ofPipes fun _ => .empty)] := by
        refine .copying hseenAfter (told_concat_iff.mpr (Or.inr rfl)) hopen
          fun direction => ?_
        rw [received_concat, hnothing]
        refine Pipe.holds_empty fun hended => ?_
        rw [told_concat_iff, or_iff_left nofun] at hended
        obtain ⟨time, hmem⟩ := hended
        exact hunconnected true (hreported.of_append.connected_of_piped hmem)
      exact
        { follows := hcopying
          closes := nofun
          fails := nofun }

theorem delivered_writes (direction way : Direction) (bytes : Bytes) :
    delivered connection direction (writes connection [(way, bytes)]) =
      if way = direction then bytes else [] := by
  by_cases hempty : bytes = []
  · simp [writes, hempty, delivered]
  · simp [writes, hempty, delivered, Effect.writtenAt]

theorem readAt_pipe (direction way : Direction) (event : PipeEvent) :
    (Event.atSplice connection (.pipe way event)).readAt connection direction =
      if way = direction then event.bytes else [] := by
  simp [Event.readAt]

theorem passes_piped {now : Instant} {pipes : Direction → Pipe}
    {direction : Direction} {event : PipeEvent}
    (hreported : Reported
      (handled ++ [(now, .atSplice connection (.pipe direction event))]))
    (hseen : connection ∈ accepted handled)
    (hconnected : Told connection (.connected true) handled)
    (hopen : Open connection before)
    (hpipes : ∀ direction, (pipes direction).Holds
      (received connection direction handled)
      (delivered connection direction before)
      (Told connection (.pipe direction .endOfStream) handled)) :
    Passes connection handled before
      (now, .atSplice connection (.pipe direction event))
      (stepSplice now (.pipe direction event)
        (connection, .ofPipes pipes)).1
      (stepSplice now (.pipe direction event)
        (connection, .ofPipes pipes)).2 := by
  have hstep := Splice.step_ofPipes pipes now direction event
  have hread := hreported.orderly.2
  have hinitial : ∀ way, delivered connection way before <+:
      received connection way handled := by
    intro way
    rw [(hpipes way).bytes]
    exact List.prefix_append _ _
  have hbytes : ∀ written way, delivered connection way (before ++
      (writes connection [(direction, written)] ++ [.close connection])) =
        delivered connection way before ++
          if direction = way then written else [] := by
    intro written way
    rw [delivered_append, delivered_append, delivered_writes]
    exact congrArg _ (List.append_nil _)
  have hseenAfter : connection ∈ accepted (handled ++
      [(now, .atSplice connection (.pipe direction event))]) := by
    rw [accepted_append]
    exact List.mem_append_left _ hseen
  -- The other direction is as it was; of this one all is known.
  rcases (hpipes direction).step_cases hread with
    ⟨next, written, hpipe, hfine, hholds⟩ | ⟨hpipe, hfailed⟩ |
    ⟨written, hpipe, hfine, hended, hall⟩
  · rw [hpipe] at hstep
    rw [stepSplice_of_some hstep]
    have hopenAfter : Open connection
        (before ++ writes connection [(direction, written)]) :=
      ⟨List.mem_append_left _ hopen.1, by
        rw [List.mem_append, not_or]
        exact ⟨hopen.2, close_notMem_writes⟩⟩
    exact
      { follows := by
          refine .copying hseenAfter
            (told_concat_iff.mpr (Or.inl hconnected)) hopenAfter
            fun way => ?_
          rw [received_concat, delivered_append, delivered_writes,
            readAt_pipe, told_concat_iff]
          by_cases hway : direction = way
          · subst hway
            rw [if_pos rfl, if_pos rfl, Function.update_self]
            simpa using hholds
          · rw [if_neg hway, if_neg hway, List.append_nil, List.append_nil,
              Function.update_of_ne (Ne.symm hway)]
            simpa [hway] using hpipes way
        closes := fun hclose => absurd hclose close_notMem_writes
        fails := by
          rintro - (- | - | hfails)
          exact absurd hfails hfine }
  · rw [hpipe] at hstep
    rw [stepSplice_of_none hstep]
    exact
      { follows := by
          refine follows_gone hopen hseenAfter fun way => ?_
          rw [hbytes, ite_self, List.append_nil, received_concat]
          exact (hinitial way).trans (List.prefix_append _ _)
        closes := fun _ => ⟨hopen, .failed (.pipe hfailed)⟩
        fails := fun _ _ => by simp }
  · rw [hpipe] at hstep
    rw [stepSplice_of_none hstep]
    exact
      { follows := by
          refine follows_gone hopen hseenAfter fun way => ?_
          rw [hbytes, received_concat, readAt_pipe]
          by_cases hway : direction = way
          · subst hway
            rw [if_pos rfl, if_pos rfl, hall]
          · rw [if_neg hway, if_neg hway, List.append_nil, List.append_nil]
            exact hinitial way
        closes := by
          refine fun _ => ⟨hopen, .copied direction ?_ ?_⟩
          · rw [told_concat_iff]
            refine hended.imp_right fun hevent => ?_
            rw [hevent]
          · rw [hbytes, received_concat, readAt_pipe, if_pos rfl,
              if_pos rfl, hall]
        fails := fun _ _ => by simp }

theorem passes_timed {now since : Instant}
    (hseen : (since, .accepted connection) ∈ handled)
    (honce : ∀ time, (time, .accepted connection) ∈ handled → time = since)
    (hunconnected : ∀ success, ¬Told connection (.connected success) handled) :
    Passes connection handled [.connectTarget connection] (now, .tick)
      (stepSplice now .tick (connection, .start since)).1
      (stepSplice now .tick (connection, .start since)).2 := by
  have hopen : Open connection [.connectTarget connection] :=
    ⟨List.mem_singleton_self _, by simp⟩
  by_cases hlate : since + Splice.connectLimit ≤ now
  · have hstep : (Splice.start since).step now .tick = (none, []) := by
      rw [Splice.start, Splice.step, if_pos hlate]
      all_goals nofun
    rw [stepSplice_of_none hstep]
    have hseenAfter : connection ∈ accepted (handled ++ [(now, .tick)]) := by
      rw [accepted_append]
      exact List.mem_append_left _ (mem_accepted_of_mem hseen)
    exact
      { follows := follows_gone hopen hseenAfter fun _ => List.nil_prefix
        closes := fun _ =>
          ⟨hopen, .failed (.timedOut hseen hunconnected hlate)⟩
        fails := fun _ _ => List.mem_singleton_self _ }
  · have hstep : (Splice.start since).step now .tick =
        (some (.start since), []) := by
      rw [Splice.start, Splice.step, if_neg hlate]
      all_goals nofun
    rw [stepSplice_of_some hstep]
    refine .of_apart (.connecting hseen honce hunconnected rfl) nofun ?_
    rintro - (- | ⟨hsince, -, hlate'⟩)
    rw [honce _ hsince] at hlate'
    exact hlate hlate'

theorem Seen.passes {next : List (ConnectionId × Splice)}
    (hturn : Seen connection last splices next turn)
    (hreported : Reported (handled ++ [last]))
    (hfollows : Follows connection handled before splices) :
    Passes connection handled before last next turn := by
  have horderly := hreported.orderly
  have hcourse := hfollows
  cases hturn with
  | kept => exact passes_kept hreported hfollows
  | spliced => exact passes_spliced hreported hfollows
  | @told now event =>
      cases hfollows with
      | unseen | gone => exact passes_told_nil hcourse
      | connecting hseen honce hunconnected hnothing =>
          rw [stepSplices_singleton (decide_eq_true rfl), hnothing]
          cases event with
          | connected success =>
              exact passes_connected hreported (mem_accepted_of_mem hseen)
                hunconnected
          | pipe direction event =>
              exact absurd horderly.1 (hunconnected true)
          | tick => exact absurd horderly id
      | copying hseen hconnected hopen hpipes =>
          rw [stepSplices_singleton (decide_eq_true rfl)]
          cases event with
          | connected success => exact absurd hconnected (horderly.2 true)
          | pipe direction event =>
              exact passes_piped hreported hseen hconnected hopen hpipes
          | tick => exact absurd horderly id
  | @tick now =>
      cases hfollows with
      | unseen | gone =>
          exact .of_apart hcourse nofun fun hopen =>
            absurd hopen hcourse.not_open_of_nil
      | connecting hseen honce hunconnected hnothing =>
          rw [stepSplices_singleton rfl, hnothing]
          exact passes_timed hseen honce hunconnected
      | copying hseen hconnected hopen hpipes =>
          rw [stepSplices_singleton rfl]
          refine .of_apart (.copying hseen hconnected hopen hpipes) nofun ?_
          rintro - (- | ⟨-, hunconnected, -⟩)
          exact hunconnected true hconnected
  | apart htime hapart =>
      refine .of_apart hfollows hapart ?_
      rintro - (- | - | -)
      · exact hapart rfl
      · exact htime rfl
      · exact hapart rfl

theorem Follows.delivered_prefix
    (hfollows : Follows connection handled before splices)
    (direction : Direction) :
    delivered connection direction before <+:
      received connection direction handled := by
  cases hfollows with
  | unseen _ hnothing =>
      rw [hnothing]
      exact List.nil_prefix
  | gone _ _ hbytes => exact hbytes direction
  | connecting _ _ _ hnothing =>
      rw [hnothing]
      exact List.nil_prefix
  | copying _ _ _ hpipes =>
      rw [(hpipes direction).bytes]
      exact List.prefix_append _ _

theorem eq_nil_of_concat_eq {α : Type} {a : α} {earlier front rest : List α}
    (hsame : earlier ++ [a] = front ++ a :: rest) (hnew : a ∉ earlier) :
    rest = [] := by
  rcases List.eq_nil_or_concat rest with hnil | ⟨init, last, rfl⟩
  · exact hnil
  · rw [List.concat_eq_append, ← List.cons_append, ← List.append_assoc] at hsame
    have hfront := List.append_inj_left' hsame rfl
    exact absurd (hfront ▸ by simp) hnew

theorem Follows.closed_last
    (hfollows : Follows connection handled before splices)
    {front rest : List Effect}
    (hbefore : before = front ++ .close connection :: rest) : rest = [] := by
  have hmem : .close connection ∈ before := by
    rw [hbefore]
    simp
  cases hfollows with
  | unseen _ hnothing =>
      rw [hnothing] at hmem
      cases hmem
  | gone _ hclosed =>
      rcases hclosed with rfl | ⟨earlier, rfl, hnew⟩
      · cases hmem
      · exact eq_nil_of_concat_eq hbefore hnew
  | connecting _ _ _ hnothing =>
      rw [hnothing] at hmem
      simp at hmem
  | copying _ _ hopen => exact absurd hmem hopen.2

end Course

/-! ## A whole run -/

section Whole

variable {engine next : TcpEngine} {connection : ConnectionId}
  {handled : List (Instant × Event)} {last : Instant × Event}

theorem follows_run {began : Instant} {events : List (Instant × Event)}
    (hreported : Reported events)
    (hrun : ((start began).1.run events).1 = .ok next) :
    Follows connection events
      (concerning connection ((start began).1.run events).2)
      (spliceOf connection next.splices) := by
  -- The last turn is that of the engine which all others have led to.
  induction events using List.reverseRecOn generalizing next with
  | nil =>
      cases hrun
      exact .unseen List.not_mem_nil rfl
  | append_singleton handled last ih =>
      cases hmiddle : ((start began).1.run handled).1 with
      | error error =>
          rw [run_append_of_error hmiddle, hmiddle] at hrun
          cases hrun
      | ok middle =>
          have hfollows := ih hreported.of_append hmiddle
          rw [run_concat hmiddle] at hrun ⊢
          rw [concerning_append]
          have hturn : Seen connection last _ _ _ :=
            seen_step (Prod.ext hrun rfl)
          exact (hturn.passes hreported hfollows).follows

/-- What becomes of the bytes that are sent on a connection. -/
structure Carries (engine : TcpEngine) (events : List (Instant × Event))
    (connection : ConnectionId) (sent : Direction → Bytes) : Prop where
  inOrder : ∀ direction,
    delivered connection direction (engine.run events).2 <+: sent direction
  closes : ∀ handled last unread before after turn,
    events = handled ++ last :: unread →
    (engine.run handled).1 = .ok before →
    before.step last.1 last.2 = (.ok after, turn) →
    (.close connection ∈ turn ↔
      Open connection (engine.run handled).2 ∧
        Finishes connection handled last ((engine.run handled).2 ++ turn))
  closedLast : ∀ front rest,
    (engine.run events).2 = front ++ .close connection :: rest →
    concerning connection rest = []

theorem close_mem_iff_finishes {began : Instant} {before after : TcpEngine}
    {turn : List Effect} (hreported : Reported (handled ++ [last]))
    (hbefore : ((start began).1.run handled).1 = .ok before)
    (hstep : before.step last.1 last.2 = (.ok after, turn)) :
    .close connection ∈ turn ↔
      Open connection ((start began).1.run handled).2 ∧
        Finishes connection handled last
          (((start began).1.run handled).2 ++ turn) := by
  have hfollows : Follows connection handled _ _ :=
    follows_run hreported.of_append hbefore
  have hturn : Seen connection last _ _ _ := seen_step hstep
  obtain ⟨hafter, hcloses, hfails⟩ := hturn.passes hreported hfollows
  rw [mem_concerning_iff rfl, open_concerning_iff] at hcloses hfails
  rw [← concerning_append] at hafter hcloses
  constructor
  · intro hclose
    obtain ⟨hopen, hfailed | ⟨direction, hended, hall⟩⟩ := hcloses hclose
    · exact ⟨hopen, .failed hfailed⟩
    · rw [delivered_concerning] at hall
      exact ⟨hopen, .copied direction hended hall⟩
  · rintro ⟨hopen, hfailed | ⟨direction, hended, hall⟩⟩
    · exact hfails hopen hfailed
    · -- A splice that goes on has something left to deliver.
      by_contra hclose
      rw [← delivered_concerning] at hall
      refine hafter.not_copied hreported ?_ hended hall
      rw [open_concerning_iff]
      exact ⟨List.mem_append_left _ hopen.1, by
        rw [List.mem_append, not_or]
        exact ⟨hopen.2, hclose⟩⟩

/-- In each direction a splice delivers what it receives, in order and nothing
else; it ends when it fails or has delivered everything one way, and nothing
happens on its connection after that. -/
theorem run_carries (began : Instant) {events : List (Instant × Event)}
    (hreported : Reported events) {sent : Direction → Bytes}
    (hsent : ∀ direction,
      received connection direction events <+: sent direction) :
    (start began).1.Carries events connection sent := by
  obtain ⟨handled, unread, next, hevents, hrun, hsame⟩ :=
    exists_handled (start began).1 connection events
  have hfollows : Follows connection handled _ _ :=
    follows_run (hevents ▸ hreported).of_append hrun
  rw [← hsame] at hfollows
  exact
    { inOrder := by
        intro direction
        have hdelivered := hfollows.delivered_prefix direction
        rw [delivered_concerning] at hdelivered
        have hreceived : received connection direction handled <+:
            received connection direction events := by
          rw [hevents, received, received, List.flatMap_append]
          exact List.prefix_append _ _
        exact hdelivered.trans (hreceived.trans (hsent direction))
      closes := by
        rintro handled last unread before after turn rfl hbefore hstep
        rw [List.append_cons] at hreported
        exact close_mem_iff_finishes hreported.of_append hbefore hstep
      closedLast := by
        intro front rest heffects
        have hclose : concerning connection (.close connection :: rest) =
            .close connection :: concerning connection rest :=
          List.filter_cons_of_pos (decide_eq_true rfl)
        rw [heffects, concerning_append, hclose] at hfollows
        exact hfollows.closed_last rfl }

theorem run_carries_toTarget :
    let events : List (Instant × Event) :=
      [(0, .accepted 0), (1, .accepted 1), (2, .atSplice 1 (.connected true)),
        (3, .atSplice 1 (.pipe .toTarget (.read [7, 8]))),
        (4, .atSplice 1 (.pipe .toClient (.read [9]))),
        (5, .atSplice 1 (.pipe .toTarget (.wrote 1))),
        (6, .atSplice 1 (.pipe .toTarget .endOfStream)),
        (7, .atSplice 1 (.pipe .toTarget (.wrote 1)))]
    let sent : Direction → Bytes
      | .toTarget => [7, 8]
      | .toClient => [9, 10]
    Reported events ∧
      (∀ direction, received 1 direction events <+: sent direction) ∧
      (start 0).1.Carries events 1 sent := by
  intro events sent
  have hreported : Reported events := by
    simp only [events, Reported, throughout_cons_iff,
      throughout_nil]
    simp [Orderly, accepted, Event.accepted?, Told]
  have hsent : ∀ direction,
      received 1 direction events <+: sent direction := by
    intro direction
    cases direction <;> decide
  exact ⟨hreported, hsent, run_carries 0 hreported hsent⟩

end Whole

end TcpEngine

end Pinhole
