import Pinhole.Proofs.Forward.TaskCourses

/-!
# Which connections reach the target, and what stops the engine

An engine is as far as the courses of its parts.  It stops in the turn in which
the course of the prober or of the responder ends, unless a failed accept made
it pause.  Then it stops when it looks again.

Connections are routed by the number of those that were accepted before them.
That number is kept in a word, which is why the routes are stated modulo its
size before they are stated for all runs that are short of it.
-/

namespace Pinhole

namespace TcpEngine

/-! ## A whole run -/

theorem accepted_append (events later : List (Instant × Event)) :
    accepted (events ++ later) = accepted events ++ accepted later :=
  List.filterMap_append

theorem accepted_cons (entry : Instant × Event)
    (later : List (Instant × Event)) :
    accepted (entry :: later) = accepted [entry] ++ accepted later :=
  accepted_append [entry] later

theorem forwarded_append (earlier : Nat)
    (connections others : List ConnectionId) :
    forwarded earlier (connections ++ others) =
      forwarded earlier connections ++
        forwarded (earlier + connections.length) others := by
  rw [forwarded, List.zipIdx_append, List.filter_append, List.map_append]
  rfl

theorem responderAfter_cons (earlier : Nat)
    (responder : Option (Except ForwardError PongResponder))
    (entry : Instant × Event) (later : List (Instant × Event)) :
    responderAfter earlier responder (entry :: later) =
      responderAfter (earlier + (accepted [entry]).length)
        (responderAfter earlier responder [entry]) later := by
  obtain ⟨now, event⟩ := entry
  cases event with
  | accepted connection =>
      rw [responderAfter, responderAfter]
      cases routeOf earlier <;> rfl
  | _ => rfl

theorem responderAfter_append (earlier : Nat)
    (responder : Option (Except ForwardError PongResponder))
    (events later : List (Instant × Event)) :
    responderAfter earlier responder (events ++ later) =
      responderAfter (earlier + (accepted events).length)
        (responderAfter earlier responder events) later := by
  induction events generalizing earlier responder with
  | nil => rfl
  | cons entry events ih =>
      rw [List.cons_append, responderAfter_cons, ih,
        responderAfter_cons earlier responder entry events,
        accepted_cons entry events, List.length_append, Nat.add_assoc]

theorem spliced_cons (earlier : Nat) (entry : Instant × Event)
    (later : List (Instant × Event)) :
    spliced earlier (entry :: later) =
      (spliced earlier [entry]).filterMap (spliceAfter later) ++
        spliced (earlier + (accepted [entry]).length) later := by
  obtain ⟨now, event⟩ := entry
  cases event with
  | accepted connection =>
      rw [spliced, spliced]
      cases routeOf earlier with
      | keepalive => rfl
      | target =>
          change _ = [(connection, Splice.start now)].filterMap _ ++ _
          rw [List.filterMap_cons]
          cases spliceAfter later (connection, .start now) <;> rfl
  | _ => rfl

section Run

variable {engine middle next : TcpEngine} {earlier : Nat}
  {entry : Instant × Event} {later : List (Instant × Event)}
  {effects rest : List Effect}

theorem run_cons_of_ok
    (hstep : engine.step entry.1 entry.2 = (.ok next, effects)) :
    engine.run (entry :: later) =
      ((next.run later).1, effects ++ (next.run later).2) := by
  rw [run, hstep]

theorem run_cons_of_error {error : ForwardError}
    (hstep : engine.step entry.1 entry.2 = (.error error, effects)) :
    engine.run (entry :: later) = (.error error, effects) := by
  rw [run, hstep]

/-- A run whose first part does not stop the engine goes on with the second. -/
theorem run_append_of_ok {handled : List (Instant × Event)}
    (hrun : (engine.run handled).1 = .ok next)
    (later : List (Instant × Event)) :
    engine.run (handled ++ later) =
      ((next.run later).1, (engine.run handled).2 ++ (next.run later).2) := by
  induction handled generalizing engine with
  | nil =>
      cases hrun
      rfl
  | cons entry handled ih =>
      cases hstep : engine.step entry.1 entry.2 with
      | mk outcome effects =>
          cases outcome with
          | error error =>
              rw [run_cons_of_error hstep] at hrun
              cases hrun
          | ok middle =>
              rw [run_cons_of_ok hstep] at hrun
              rw [List.cons_append, run_cons_of_ok hstep,
                run_cons_of_ok hstep, ih hrun, List.append_assoc]

theorem run_append_of_error {handled : List (Instant × Event)}
    {error : ForwardError} (hrun : (engine.run handled).1 = .error error)
    (later : List (Instant × Event)) :
    engine.run (handled ++ later) = engine.run handled := by
  induction handled generalizing engine with
  | nil => cases hrun
  | cons entry handled ih =>
      cases hstep : engine.step entry.1 entry.2 with
      | mk outcome effects =>
          cases outcome with
          | error error =>
              rw [List.cons_append, run_cons_of_error hstep,
                run_cons_of_error hstep]
          | ok middle =>
              rw [run_cons_of_ok hstep] at hrun
              rw [List.cons_append, run_cons_of_ok hstep,
                run_cons_of_ok hstep, ih hrun]

theorem Runs.nil (hrouter : engine.router.assigned = UInt64.ofNat earlier) :
    Runs earlier engine [] engine [] where
  prober := rfl
  responder := rfl
  router := hrouter
  connected := rfl
  splices := by
    have hsame : spliceAfter [] = some := rfl
    rw [hsame, List.filterMap_some]
    exact (List.append_nil _).symm

theorem Runs.cons (hturn : Runs earlier engine [entry] middle effects)
    (hruns : Runs (earlier + (accepted [entry]).length) middle later next
      rest) :
    Runs earlier engine (entry :: later) next (effects ++ rest) where
  prober := by
    rw [← List.singleton_append, taskAfter_append, hturn.prober]
    exact hruns.prober
  responder := by
    rw [responderAfter_cons, hturn.responder]
    exact hruns.responder
  router := by
    rw [accepted_cons, List.length_append, ← Nat.add_assoc]
    exact hruns.router
  connected := by
    rw [List.filterMap_append, hturn.connected, hruns.connected,
      accepted_cons entry later, forwarded_append]
  splices := by
    have hcourse : spliceAfter (entry :: later) = fun splice =>
        (spliceAfter [entry] splice).bind (spliceAfter later) := by
      funext splice
      exact List.foldlM_append (l := [entry])
    rw [hruns.splices, hturn.splices, spliced_cons earlier entry later,
      List.filterMap_append, List.filterMap_filterMap, List.append_assoc,
      hcourse]

theorem runs_of_run (hrouter : engine.router.assigned = UInt64.ofNat earlier)
    {events : List (Instant × Event)}
    (hrun : (engine.run events).1 = .ok next) :
    Runs earlier engine events next (engine.run events).2 := by
  induction events generalizing engine earlier with
  | nil =>
      cases hrun
      exact Runs.nil hrouter
  | cons entry later ih =>
      cases hstep : engine.step entry.1 entry.2 with
      | mk outcome effects =>
          cases outcome with
          | error error =>
              rw [run_cons_of_error hstep] at hrun
              cases hrun
          | ok middle =>
              have hturn := runs_of_step hrouter hstep
              rw [run_cons_of_ok hstep] at hrun ⊢
              exact hturn.cons (ih hturn.router hrun)

/-- A run goes on, or some turn of it stops the engine. -/
theorem run_cases (engine : TcpEngine) (events : List (Instant × Event)) :
    (∃ next, (engine.run events).1 = .ok next) ∨
      ∃ handled last unread next error,
        events = handled ++ last :: unread ∧
          (engine.run handled).1 = .ok next ∧
          (next.step last.1 last.2).1 = .error error ∧
          engine.run events =
            (.error error,
              (engine.run handled).2 ++ (next.step last.1 last.2).2) := by
  induction events generalizing engine with
  | nil => exact Or.inl ⟨engine, rfl⟩
  | cons entry later ih =>
      cases hstep : engine.step entry.1 entry.2 with
      | mk outcome effects =>
          cases outcome with
          | error error =>
              refine Or.inr ⟨[], entry, later, engine, error, rfl, rfl,
                congrArg Prod.fst hstep, ?_⟩
              rw [run_cons_of_error hstep, hstep]
              rfl
          | ok middle =>
              rcases ih middle with ⟨next, hnext⟩ |
                ⟨handled, last, unread, next, error, rfl, hnext, herror,
                  hended⟩
              · left
                rw [run_cons_of_ok hstep]
                exact ⟨next, hnext⟩
              · right
                refine ⟨entry :: handled, last, unread, next, error, rfl, ?_⟩
                rw [run_cons_of_ok hstep, run_cons_of_ok hstep, hended,
                  List.append_assoc]
                exact ⟨hnext, herror, rfl⟩

theorem run_concat {handled : List (Instant × Event)}
    (hrun : (engine.run handled).1 = .ok next) (last : Instant × Event) :
    engine.run (handled ++ [last]) =
      ((next.step last.1 last.2).1,
        (engine.run handled).2 ++ (next.step last.1 last.2).2) := by
  rw [run_append_of_ok hrun]
  cases hstep : next.step last.1 last.2 with
  | mk outcome turn =>
      cases outcome with
      | error error => rw [run_cons_of_error hstep]
      | ok after =>
          rw [run_cons_of_ok hstep]
          exact congrArg (Prod.mk _)
            (congrArg _ (List.append_nil turn))

/-- A run that goes on after its last turn went on before it. -/
theorem exists_of_run_concat {handled : List (Instant × Event)}
    {last : Instant × Event}
    (hrun : (engine.run (handled ++ [last])).1 = .ok next) :
    ∃ before effects, (engine.run handled).1 = .ok before ∧
      before.step last.1 last.2 = (.ok next, effects) := by
  cases hbefore : (engine.run handled).1 with
  | error error =>
      rw [run_append_of_error hbefore, hbefore] at hrun
      cases hrun
  | ok before =>
      rw [run_concat hbefore] at hrun
      exact ⟨before, _, rfl, Prod.ext hrun rfl⟩

end Run

/-! ## When the engine stops -/

/-- What makes the loop look for ended tasks. -/
def Event.wakes : Event → Bool
  | .accepted _ | .acceptFailed _ | .atSplice .. => false
  | .dialled _ | .atProber _ | .atResponder _ | .tick => true

/-- An engine stops in a turn.  It looks, after its pause if there was one, and
one of the tasks has ended by then. -/
structure Stops (began : Instant) (handled : List (Instant × Event))
    (last : Instant × Event) (error : ForwardError) : Prop where
  wakes : last.2.wakes = true
  resumed : ∀ time ∈ pausedUntil handled, time ≤ last.1
  ended : firstEnd? began (handled ++ [last]) = some error

/-- An event ends the prober, or else the responder. -/
inductive Ends (began : Instant) (handled : List (Instant × Event))
    (last : Instant × Event) : ForwardError → Prop
  | prober {prober error}
      (hrunning : proberCourse began handled = .ok prober)
      (hends : proberTurn prober last = .error error) :
      Ends began handled last error
  | responder {prober responder error}
      (hprober : proberCourse began (handled ++ [last]) = .ok prober)
      (hrunning : responderCourse handled = some (.ok responder))
      (hends : responderTurn responder last = .error error) :
      Ends began handled last error

/-- The engine has come to what the events tell. -/
structure Reached (began : Instant) (events : List (Instant × Event))
    (engine : TcpEngine) : Prop where
  prober : engine.prober = proberCourse began events
  responder : engine.responder = responderCourse events
  ended? : engine.ended? = firstEnd? began events
  pausedUntil? : engine.pausedUntil? = pausedUntil events

section Stopping

variable {began : Instant} {engine next : TcpEngine}
  {handled : List (Instant × Event)} {last : Instant × Event}
  {error : ForwardError}

theorem proberCourse_concat (began : Instant)
    (handled : List (Instant × Event)) (last : Instant × Event) :
    proberCourse began (handled ++ [last]) =
      taskAfter proberTurn (proberCourse began handled) [last] :=
  taskAfter_append _ _ _

theorem responderCourse_concat (haccepted : last.2.accepted? = none)
    (handled : List (Instant × Event)) :
    responderCourse (handled ++ [last]) =
      (responderCourse handled).map fun task =>
        taskAfter responderTurn task [last] := by
  rw [responderCourse, responderAfter_append]
  exact responderAfter_singleton haccepted _

theorem firstEnd?_concat (began : Instant) (handled : List (Instant × Event))
    (last : Instant × Event) :
    firstEnd? began (handled ++ [last]) =
      (firstEnd? began handled).or
        (endOf (proberCourse began (handled ++ [last]))
          (responderCourse (handled ++ [last]))) := by
  have hinits : (handled ++ [last]).inits =
      handled.inits ++ [handled ++ [last]] := by
    simp
  rw [firstEnd?, hinits, List.findSome?_append, List.findSome?_singleton]
  rfl

theorem endOf_of_firstEnd?_eq_none (hnone : firstEnd? began handled = none) :
    endOf (proberCourse began handled) (responderCourse handled) = none :=
  List.findSome?_eq_none_iff.mp hnone handled
    ((List.mem_inits handled handled).mpr List.prefix_rfl)

theorem pausedUntil_concat (handled : List (Instant × Event))
    (last : Instant × Event) :
    pausedUntil (handled ++ [last]) =
      (pauseEnd? last).or (pausedUntil handled) := by
  rw [pausedUntil, List.filterMap_append, List.getLast?_append, pausedUntil]
  cases hpause : pauseEnd? last <;> simp [hpause]

theorem Reached.noted (hreached : Reached began handled engine) :
    engine.Noted := by
  intro hnone
  rw [hreached.prober, hreached.responder]
  exact endOf_of_firstEnd?_eq_none (hreached.ended?.symm.trans hnone)

theorem Event.accepted?_of_wakes {event : Event}
    (hwakes : event.wakes = true) : event.accepted? = none := by
  cases event with
  | accepted connection => cases hwakes
  | _ => rfl

/-- What the loop finds if it looks is what has ended by then. -/
theorem Reached.ended?_stepKeepalive (hreached : Reached began handled engine)
    (hwakes : last.2.wakes = true) :
    (engine.stepKeepalive last.1 last.2).1.ended? =
      firstEnd? began (handled ++ [last]) := by
  rw [TcpEngine.ended?_stepKeepalive engine last.1 hreached.noted,
    fst_stepKeepalive, hreached.prober, hreached.responder, hreached.ended?,
    firstEnd?_concat, proberCourse_concat,
    responderCourse_concat (Event.accepted?_of_wakes hwakes)]

theorem looks_iff (engine : TcpEngine) (now : Instant) (event : Event) :
    engine.looks now event = true ↔
      event.wakes = true ∧ ∀ time ∈ engine.pausedUntil?, time ≤ now := by
  have hall : (engine.pausedUntil?.all fun time => decide (time ≤ now)) =
      true ↔ ∀ time ∈ engine.pausedUntil?, time ≤ now := by
    cases engine.pausedUntil? <;> simp
  cases event <;> simp [looks, Event.wakes, hall]

theorem Reached.stops_iff (hreached : Reached began handled engine)
    (last : Instant × Event) (error : ForwardError) :
    (engine.step last.1 last.2).1 = .error error ↔
      Stops began handled last error := by
  rw [step_eq_error_iff, found?]
  constructor
  · intro hfound
    split at hfound
    · rename_i hlooks
      obtain ⟨hwakes, hresumed⟩ := (looks_iff engine _ _).mp hlooks
      rw [hreached.ended?_stepKeepalive hwakes] at hfound
      rw [hreached.pausedUntil?] at hresumed
      exact ⟨hwakes, hresumed, hfound⟩
    · cases hfound
  · rintro ⟨hwakes, hresumed, hended⟩
    rw [← hreached.pausedUntil?] at hresumed
    rw [if_pos ((looks_iff engine _ _).mpr ⟨hwakes, hresumed⟩),
      hreached.ended?_stepKeepalive hwakes, hended]

theorem Event.stepKeepalive_of_not_wakes {event : Event}
    (hsleeps : event.wakes = false) (engine : TcpEngine) (now : Instant) :
    engine.stepKeepalive now event = (engine, []) := by
  cases event with
  | accepted _ | acceptFailed _ | atSplice _ _ => rfl
  | _ => cases hsleeps

/-- A responder is handed its connection, and runs then, in a turn that does
not end it. -/
theorem responderAfter_of_not_wakes {earlier : Nat}
    {task? : Option (Except ForwardError PongResponder)}
    (hsleeps : last.2.wakes = false)
    (hrunning : ∀ task ∈ task?, ∃ running, task = .ok running) :
    ∀ task ∈ responderAfter earlier task? [last],
      ∃ running, task = .ok running := by
  obtain ⟨now, event⟩ := last
  cases event with
  | accepted connection =>
      rw [responderAfter]
      cases routeOf earlier with
      | keepalive =>
          rintro task ⟨⟩
          exact ⟨_, rfl⟩
      | target => exact hrunning
  | acceptFailed _ | atSplice _ _ =>
      rw [responderAfter_singleton rfl,
        map_taskAfter_of_ignored fun _ => rfl]
      exact hrunning
  | _ => cases hsleeps

/-- What the loop does not look at has no part in how a task ends. -/
theorem firstEnd?_concat_of_not_wakes (hsleeps : last.2.wakes = false)
    (began : Instant) (handled : List (Instant × Event)) :
    firstEnd? began (handled ++ [last]) = firstEnd? began handled := by
  rw [firstEnd?_concat]
  cases hfirst : firstEnd? began handled with
  | some error => rfl
  | none =>
      obtain ⟨⟨prober, hprober⟩, hresponder⟩ :=
        endOf_eq_none_iff.mp (endOf_of_firstEnd?_eq_none hfirst)
      have hproberSame : proberCourse began (handled ++ [last]) =
          .ok prober := by
        rw [proberCourse_concat, taskAfter_of_ignored, hprober]
        obtain ⟨now, event⟩ := last
        cases event with
        | accepted _ | acceptFailed _ | atSplice _ _ => exact fun _ => rfl
        | _ => cases hsleeps
      rw [Option.none_or, endOf_eq_none_iff, responderCourse,
        responderAfter_append]
      exact ⟨⟨prober, hproberSame⟩,
        responderAfter_of_not_wakes hsleeps hresponder⟩

theorem reached_run {events : List (Instant × Event)}
    (hrun : ((start began).1.run events).1 = .ok next) :
    Reached began events next := by
  have hruns : Runs 0 (start began).1 events next _ := runs_of_run rfl hrun
  -- The last turn is that of the engine which all others have led to.
  induction events using List.reverseRecOn generalizing next with
  | nil =>
      cases hrun
      exact ⟨rfl, rfl, rfl, rfl⟩
  | append_singleton handled last ih =>
      obtain ⟨before, effects, hbefore, hstep⟩ := exists_of_run_concat hrun
      have hreached := ih hbefore (runs_of_run rfl hbefore)
      obtain ⟨-, rfl, -⟩ := step_of_ok hstep
      have hended := (stepConnections_tasks last.1
        (before.stepKeepalive last.1 last.2).1 last.2).2
      constructor
      case prober => exact hruns.prober.symm
      case responder => exact hruns.responder.symm
      case ended? =>
        rw [hended]
        cases hwakes : last.2.wakes with
        | true => exact hreached.ended?_stepKeepalive hwakes
        | false =>
            rw [Event.stepKeepalive_of_not_wakes hwakes,
              firstEnd?_concat_of_not_wakes hwakes]
            exact hreached.ended?
      case pausedUntil? =>
        rw [stepConnections_pausedUntil?, fst_stepKeepalive,
          pausedUntil_concat, hreached.pausedUntil?]

/-- As long as no accept has failed, no end goes unnoticed. -/
theorem firstEnd?_of_unpaused {events : List (Instant × Event)}
    (hrun : ((start began).1.run events).1 = .ok next)
    (hunpaused : pausedUntil events = none) :
    firstEnd? began events = none := by
  induction events using List.reverseRecOn generalizing next with
  | nil => rfl
  | append_singleton handled last ih =>
      obtain ⟨before, effects, hbefore, hstep⟩ := exists_of_run_concat hrun
      rw [pausedUntil_concat, Option.or_eq_none_iff] at hunpaused
      have hnone := ih hbefore hunpaused.2
      cases hwakes : last.2.wakes with
      | false => rw [firstEnd?_concat_of_not_wakes hwakes, hnone]
      | true =>
          rw [Option.eq_none_iff_forall_ne_some]
          intro error hended
          have hstops : Stops began handled last error :=
            ⟨hwakes, by simp [hunpaused.2], hended⟩
          rw [← (reached_run hbefore).stops_iff, hstep] at hstops
          cases hstops

theorem Ends.wakes (hends : Ends began handled last error) :
    last.2.wakes = true := by
  obtain ⟨now, event⟩ := last
  cases hends with
  | prober _ hends =>
      cases event with
      | accepted _ | acceptFailed _ | atSplice _ _ => cases hends
      | _ => rfl
  | responder _ _ hends =>
      cases event with
      | accepted _ | acceptFailed _ | atSplice _ _ => cases hends
      | _ => rfl

/-- An end that is noticed at once is the end of the engine. -/
theorem stops_iff_ends (hnone : firstEnd? began handled = none)
    (hunpaused : pausedUntil handled = none) :
    Stops began handled last error ↔ Ends began handled last error := by
  obtain ⟨⟨prober, hprober⟩, hresponders⟩ :=
    endOf_eq_none_iff.mp (endOf_of_firstEnd?_eq_none hnone)
  have hturn : proberCourse began (handled ++ [last]) =
      proberTurn prober last := by
    rw [proberCourse_concat, hprober]
    rfl
  have hfirst : firstEnd? began (handled ++ [last]) =
      endOf (proberTurn prober last) (responderCourse (handled ++ [last])) := by
    rw [firstEnd?_concat, hnone, Option.none_or, hturn]
  constructor
  · rintro ⟨hwakes, -, hended⟩
    rw [hfirst, responderCourse_concat (Event.accepted?_of_wakes hwakes)]
      at hended
    cases hends : proberTurn prober last with
    | error found =>
        rw [hends] at hended
        cases hended
        exact .prober hprober hends
    | ok after =>
        rw [hends] at hended
        cases hthere : responderCourse handled with
        | none =>
            rw [hthere] at hended
            cases hended
        | some task =>
            obtain ⟨responder, rfl⟩ := hresponders task hthere
            rw [hthere] at hended
            change failure? (responderTurn responder last) = _ at hended
            cases hfails : responderTurn responder last with
            | ok _ =>
                rw [hfails] at hended
                cases hended
            | error found =>
                rw [hfails] at hended
                cases hended
                exact .responder (hturn.trans hends) hthere hfails
  · intro hends
    refine ⟨hends.wakes, by simp [hunpaused], ?_⟩
    rw [hfirst,
      responderCourse_concat (Event.accepted?_of_wakes hends.wakes)]
    cases hends with
    | prober hrunning hends =>
        cases hprober.symm.trans hrunning
        rw [hends]
        rfl
    | responder hafter hthere hends =>
        rw [← hturn, hafter, hthere]
        change failure? (responderTurn _ last) = _
        rw [hends]
        rfl

end Stopping

/-! ## Runs with few connections -/

/-- The first connection was handed to the responder, and no other was. -/
structure KeepsFirst (events : List (Instant × Event)) (next : TcpEngine)
    (effects : List Effect) : Prop where
  handed : ∀ before now first after,
    events = before ++ (now, .accepted first) :: after →
    accepted before = [] →
    next.responder = some (taskAfter responderTurn (.ok (.start now)) after)
  connected : effects.filterMap Effect.connected? = (accepted events).tail

theorem routeOf_eq_target {earlier : Nat} (hsome : 0 < earlier)
    (hfew : earlier < UInt64.size) : routeOf earlier = .target := by
  rw [routeOf, Nat.mod_eq_of_lt hfew, if_neg (by omega)]

theorem forwarded_of_few {earlier : Nat} {connections : List ConnectionId}
    (hsome : 0 < earlier)
    (hfew : earlier + connections.length ≤ UInt64.size) :
    forwarded earlier connections = connections := by
  have hall : ∀ entry ∈ connections.zipIdx earlier,
      decide (routeOf entry.2 = .target) = true := by
    rintro ⟨connection, number⟩ hmem
    obtain ⟨hlow, hhigh, _⟩ := List.mem_zipIdx hmem
    exact decide_eq_true
      (routeOf_eq_target (by omega) (Nat.lt_of_lt_of_le hhigh hfew))
  rw [forwarded, List.filter_eq_self.mpr hall, List.zipIdx_map_fst]

theorem forwarded_zero_of_few {connections : List ConnectionId}
    (hfew : connections.length ≤ UInt64.size) :
    forwarded 0 connections = connections.tail := by
  cases connections with
  | nil => rfl
  | cons first later =>
      rw [List.length_cons, Nat.add_comm] at hfew
      exact forwarded_of_few Nat.one_pos hfew

/-- Once there is a responder, no later connection replaces it. -/
theorem responderAfter_of_few {earlier : Nat}
    {events : List (Instant × Event)} (task : Except ForwardError PongResponder)
    (hsome : 0 < earlier)
    (hfew : earlier + (accepted events).length ≤ UInt64.size) :
    responderAfter earlier (some task) events =
      some (taskAfter responderTurn task events) := by
  induction events generalizing earlier task with
  | nil => rfl
  | cons entry later ih =>
      rw [accepted_cons, List.length_append, ← Nat.add_assoc] at hfew
      rw [responderAfter_cons]
      change _ = some (taskAfter responderTurn
        (taskAfter responderTurn task [entry]) later)
      obtain ⟨now, event⟩ := entry
      cases event with
      | accepted connection =>
          have hnext : earlier + 1 + (accepted later).length ≤
              UInt64.size := hfew
          rw [responderAfter, routeOf_eq_target hsome (by omega),
            taskAfter_of_ignored fun _ => rfl]
          exact ih task (Nat.succ_pos earlier) hnext
      | _ =>
          rw [responderAfter_singleton rfl]
          exact ih _ hsome hfew

theorem responderAfter_of_none_accepted {earlier : Nat}
    {before : List (Instant × Event)} (hnone : accepted before = []) :
    responderAfter earlier none before = none := by
  induction before generalizing earlier with
  | nil => rfl
  | cons entry before ih =>
      rw [accepted_cons, List.append_eq_nil_iff] at hnone
      have haccepted : entry.2.accepted? = none := by
        have hfirst := hnone.1
        rw [accepted, List.filterMap_cons] at hfirst
        cases hentry : entry.2.accepted? with
        | none => rfl
        | some connection => simp [hentry] at hfirst
      rw [responderAfter_cons, responderAfter_singleton haccepted]
      exact ih hnone.2

theorem Runs.keepsFirst {began : Instant} {events : List (Instant × Event)}
    {next : TcpEngine} {effects : List Effect}
    (hruns : Runs 0 (start began).1 events next effects)
    (hfew : (accepted events).length ≤ UInt64.size) :
    KeepsFirst events next effects where
  handed := by
    rintro before now first after rfl hnone
    rw [accepted_append, hnone, accepted_cons, List.nil_append,
      List.length_append] at hfew
    have hcourse : responderAfter 0 none
        (before ++ (now, .accepted first) :: after) = next.responder :=
      hruns.responder
    rw [responderAfter_append, hnone,
      responderAfter_of_none_accepted hnone] at hcourse
    change responderAfter 1 (some (.ok (.start now))) after = _ at hcourse
    rw [← hcourse, responderAfter_of_few _ Nat.one_pos hfew]
  connected := by
    rw [hruns.connected, forwarded_zero_of_few hfew]

/-! ## Runs without what happens at the splices -/

def Event.isAtSplice : Event → Bool
  | .atSplice .. => true
  | _ => false

/-- The events that are not news from a client or from the target. -/
def withoutSplices (events : List (Instant × Event)) :
    List (Instant × Event) :=
  events.filter fun entry => !entry.2.isAtSplice

/-- What is left of an engine if one does not look at its splices. -/
def core (engine : TcpEngine) : TcpEngine :=
  { engine with splices := [] }

section Core

variable (engine : TcpEngine) (now : Instant)

theorem core_stepResponder (event : StreamEvent) :
    engine.core.stepResponder now event =
      ((engine.stepResponder now event).1.core,
        (engine.stepResponder now event).2) := by
  obtain ⟨router, prober, responder, splices, ended?, pausedUntil?⟩ := engine
  cases responder <;> rfl

theorem core_stepKeepalive (event : Event) :
    engine.core.stepKeepalive now event =
      ((engine.stepKeepalive now event).1.core,
        (engine.stepKeepalive now event).2) := by
  cases event with
  | atResponder event => exact engine.core_stepResponder now event
  | tick =>
      have hprober : engine.core.stepProber (fun prober =>
          prober.step now .tick) =
            ((engine.stepProber fun prober => prober.step now .tick).1.core,
              (engine.stepProber fun prober => prober.step now .tick).2) :=
        rfl
      simp only [stepKeepalive, hprober, core_stepResponder]
  | _ => rfl

theorem core_found? (event : Event) :
    engine.core.found? now event = engine.found? now event := by
  have hlooks : engine.core.looks now event = engine.looks now event := by
    cases event <;> rfl
  rw [found?, hlooks, core_stepKeepalive]
  rfl

theorem core_stepConnections (event : Event) :
    (engine.core.stepConnections now event).1.core =
      (engine.stepConnections now event).1.core := by
  cases event with
  | accepted connection =>
      have hcore : engine.core.router.upcoming = engine.router.upcoming := rfl
      cases hroute : engine.router.upcoming with
      | keepalive =>
          rw [stepConnections_keepalive now hroute,
            stepConnections_keepalive now (hcore.trans hroute)]
          rfl
      | target =>
          rw [stepConnections_target now hroute,
            stepConnections_target now (hcore.trans hroute)]
          rfl
  | _ => rfl

/-- What a turn does to the rest of an engine does not depend on splices. -/
theorem core_step (event : Event) :
    (engine.core.step now event).1.map core =
      (engine.step now event).1.map core := by
  rw [step_eq, step_eq, core_found?]
  cases engine.found? now event with
  | some error => rfl
  | none =>
      have hturn := (engine.stepKeepalive now event).1.core_stepConnections
        now event
      rw [core_stepKeepalive]
      exact congrArg Except.ok hturn

theorem core_step_atSplice (connection : ConnectionId)
    (event : Splice.Event) :
    ∃ next effects,
      engine.step now (.atSplice connection event) = (.ok next, effects) ∧
        next.core = engine.core :=
  ⟨_, _, rfl, rfl⟩

end Core

/-- Engines that differ in their splices only have the same run, whatever
happens at the splices of one of them. -/
theorem core_run {engine other : TcpEngine} (hcore : engine.core = other.core)
    (events : List (Instant × Event)) :
    (engine.run events).1.map core =
      (other.run (withoutSplices events)).1.map core := by
  induction events generalizing engine other with
  | nil => exact congrArg Except.ok hcore
  | cons entry later ih =>
      obtain ⟨now, event⟩ := entry
      cases hat : event.isAtSplice with
      | true =>
          cases event with
          | atSplice connection event =>
              obtain ⟨next, effects, hstep, hnext⟩ :=
                engine.core_step_atSplice now connection event
              rw [run_cons_of_ok hstep, withoutSplices,
                List.filter_cons_of_neg (by simp [hat])]
              exact ih (hnext.trans hcore)
          | _ => cases hat
      | false =>
          have hturn : (engine.step now event).1.map core =
              (other.step now event).1.map core := by
            rw [← core_step engine, hcore, core_step]
          rw [withoutSplices, List.filter_cons_of_pos (by simp [hat])]
          cases hstep : engine.step now event with
          | mk outcome effects =>
              cases hothers : other.step now event with
              | mk outcome' effects' =>
                  rw [hstep, hothers] at hturn
                  cases outcome with
                  | error error =>
                      cases outcome' with
                      | error error' =>
                          rw [run_cons_of_error hstep,
                            run_cons_of_error hothers]
                          exact hturn
                      | ok _ => cases hturn
                  | ok next =>
                      cases outcome' with
                      | error _ => cases hturn
                      | ok next' =>
                          rw [run_cons_of_ok hstep, run_cons_of_ok hothers]
                          exact ih (Except.ok.inj hturn)

/-! ## The engine -/

/-- An engine that was started has handled events and goes on. -/
structure Routes (began : Instant) (events : List (Instant × Event))
    (next : TcpEngine) (effects : List Effect) : Prop where
  runs : Runs 0 (start began).1 events next effects
  few : (accepted events).length ≤ UInt64.size →
    KeepsFirst events next effects

/-- An event comes when an engine has handled others, and stops it or not. -/
structure Halts (began : Instant) (handled : List (Instant × Event))
    (last : Instant × Event) (outcome : Except ForwardError TcpEngine) :
    Prop where
  stops : ∀ error, outcome = .error error ↔ Stops began handled last error
  unpaused : pausedUntil handled = none →
    ∀ error, outcome = .error error ↔ Ends began handled last error

theorem halts_step {began : Instant} {handled : List (Instant × Event)}
    {next : TcpEngine} (hrun : ((start began).1.run handled).1 = .ok next)
    (last : Instant × Event) :
    Halts began handled last (next.step last.1 last.2).1 where
  stops := (reached_run hrun).stops_iff last
  unpaused := by
    intro hunpaused error
    rw [(reached_run hrun).stops_iff,
      stops_iff_ends (firstEnd?_of_unpaused hrun hunpaused) hunpaused]

/-- An engine hands the first connection to its responder and connects each
later one to the target.  It stops when its prober or its responder ends, with
that error, or as soon as it looks if that happens in a pause, and there is
nothing about its splices that could stop it. -/
theorem run_routes (began : Instant) (events : List (Instant × Event)) :
    let engine := (start began).1
    ((∃ next, (engine.run events).1 = .ok next ∧
          Routes began events next (engine.run events).2) ∨
        ∃ handled last unread next error final,
          events = handled ++ last :: unread ∧
            (engine.run handled).1 = .ok next ∧
            Routes began handled next (engine.run handled).2 ∧
            next.step last.1 last.2 = (.error error, final) ∧
            engine.run events =
              (.error error, (engine.run handled).2 ++ final) ∧
            final.filterMap Effect.connected? = []) ∧
      (∀ handled last unread next, events = handled ++ last :: unread →
        (engine.run handled).1 = .ok next →
        Halts began handled last (next.step last.1 last.2).1) ∧
      ∀ others, withoutSplices others = withoutSplices events →
        (engine.run others).1.map core = (engine.run events).1.map core := by
  intro engine
  have hroutes : ∀ handled next, (engine.run handled).1 = .ok next →
      Routes began handled next (engine.run handled).2 := by
    intro handled next hrun
    have hruns : Runs 0 engine handled next (engine.run handled).2 :=
      runs_of_run rfl hrun
    exact ⟨hruns, hruns.keepsFirst⟩
  refine ⟨?_, fun handled last unread next _ hrun => halts_step hrun last, ?_⟩
  · rcases run_cases engine events with ⟨next, hnext⟩ |
      ⟨handled, last, unread, next, error, hevents, hnext, herror, hended⟩
    · exact Or.inl ⟨next, hnext, hroutes events next hnext⟩
    · refine Or.inr ⟨handled, last, unread, next, error, _, hevents, hnext,
        hroutes handled next hnext, Prod.ext herror rfl, hended, ?_⟩
      rw [step_of_error (Prod.ext herror rfl)]
      exact next.filterMap_connected?_stepKeepalive last.1 last.2
  · intro others hothers
    rw [core_run rfl others, core_run rfl events, hothers]

end TcpEngine

end Pinhole
