import Pinhole.Proofs.Supervise.History

/-!
# Publications that overtake each other

Nothing ends the publication of a mapping when a newer one is found, so an
older mapping may be published after a newer one.  This happens only while the
older publication still has calls to make: none of its calls has succeeded and
fewer than three were made.  In that case nothing prevents it.
-/

namespace Pinhole

namespace Supervisor

/-- One mapping was found after another, and it is published. -/
structure Overtaken (supervisor : Supervisor) (since : Instant)
    (past : List (Instant × Event)) (early late : PublicationId)
    (older newer : Endpoint) : Prop where
  causal : supervisor.Causal since past
  older_found : (mappings past)[early]? = some older
  newer_found : (mappings past)[late]? = some newer
  order : early < late
  differ : older ≠ newer
  published : Succeeded late past

/-- Once a newer mapping is published, no call for an older one is made. -/
def NewerPrevails (supervisor : Supervisor) : Prop :=
  ∀ since past later early late older newer,
    supervisor.Overtaken since past early late older newer →
      supervisor.Causal since (past ++ later) →
        callsOf early ((supervisor.run past).1.run later).2 = []

/-! ## A retry after a newer mapping -/

def retryingName : DnsName := ⟨"_minecraft._tcp.", "mc", "example.com"⟩

/-- Two calls for the first mapping fail while the engine stops and a second
mapping is found and published. -/
def retryingPast : List (Instant × Event) :=
  let first : Endpoint := ⟨⟨203, 0, 113, 7⟩, 4100⟩
  let second : Endpoint := ⟨⟨203, 0, 113, 7⟩, 4200⟩
  let retried : Instant := Duration.seconds 3
  let restarted : Instant := Duration.seconds 5
  [(0, .lookedUp (.ok first)),
    (0, .answered 0 (.error "rejected")),
    (0, .engineEnded (.ok ())),
    (retried, .tick),
    (retried, .answered 0 (.error "rejected")),
    (restarted, .tick),
    (restarted, .lookedUp (.ok second)),
    (restarted, .answered 1 (.ok ()))]

theorem overtaken_retryingPast :
    (startForward retryingName).1.Overtaken 0 retryingPast 0 1
      ⟨⟨203, 0, 113, 7⟩, 4100⟩ ⟨⟨203, 0, 113, 7⟩, 4200⟩ where
  causal := by decide
  older_found := by decide
  newer_found := by decide
  order := by decide
  differ := by decide
  published := ⟨Duration.seconds 5, by simp [retryingPast]⟩

theorem not_newerPrevails_startForward :
    ¬ NewerPrevails (startForward retryingName).1 := by
  intro hprevails
  have hnone :=
    hprevails 0 retryingPast [(Duration.seconds 6, .tick)] 0 1 _ _
      overtaken_retryingPast (by decide)
  exact absurd hnone (by decide)

/-! ## The calls that are still made -/

theorem step_tick (supervisor : Supervisor) (now : Instant) :
    ∃ made,
      (supervisor.step now .tick).2 = made ++ (supervisor.resume now).2 ∧
        made.filterMap Effect.call? = [] := by
  have hmapping : Event.tick.mapping? = none := rfl
  obtain ⟨mode, made, hmode, hmade⟩ :=
    stepMode_of_mapping?_eq_none supervisor now hmapping
  refine ⟨made, ?_, hmade⟩
  simp only [Supervisor.step, hmode]
  rfl

theorem callsOf_step_tick (supervisor : Supervisor) (now : Instant)
    (id : PublicationId) :
    callsOf id ((supervisor.step now .tick).2.map (now, ·)) =
      callsOf id ((supervisor.resume now).2.map (now, ·)) := by
  obtain ⟨made, hstep, hmade⟩ := step_tick supervisor now
  rw [hstep, List.map_append, callsOf_append,
    callsOf_map_eq_nil hmade, List.nil_append]

theorem filterMap_call?_answer (supervisor : Supervisor) (now : Instant)
    (id : PublicationId) (outcome : Except String Unit) :
    (supervisor.answer now id outcome).2.filterMap Effect.call? = [] := by
  unfold answer
  cases supervisor.publications.lookup id with
  | none => rfl
  | some publication =>
      cases outcome with
      | ok => rfl
      | error reason =>
          simp only [Publication.answered]
          split <;> simp_all [Effect.call?]

/-- A publication that was started before calls only when its pause is
over. -/
theorem mem_callsOf_step {supervisor : Supervisor} {now : Instant}
    {event : Event}
    (hawaits : supervisor.awaits event = true) {id : PublicationId}
    (hstarted : id < supervisor.started) {call : Instant × DnsRecord}
    (hcall : call ∈ callsOf id ((supervisor.step now event).2.map (now, ·))) :
    ∃ publication wakeUp, (id, publication) ∈ supervisor.publications ∧
      publication.pause = some wakeUp ∧ wakeUp ≤ now ∧
        call = (now, publication.record) := by
  have hquiet {made : List Effect}
      (hmade : made.filterMap Effect.call? = []) :
      call ∉ callsOf id (made.map (now, ·)) := by
    simp [callsOf_map_eq_nil hmade]
  have hmode (hmapping : event.mapping? = none) :
      call ∉ callsOf id ((supervisor.stepMode now event).2.map (now, ·)) := by
    obtain ⟨mode, made, hstep, hmade⟩ :=
      stepMode_of_mapping?_eq_none supervisor now hmapping
    rw [hstep]
    exact hquiet hmade
  cases event with
  | lookedUp outcome =>
      cases outcome with
      | error error => exact absurd hcall (hmode rfl)
      | ok mapped =>
          obtain ⟨mode, made, hstep, hmade⟩ :=
            stepMode_lookedUp_ok hawaits now
          simp only [Supervisor.step, hstep, callsOf_map, hmade] at hcall
          simp [Nat.ne_of_gt hstarted] at hcall
  | engineEnded outcome => exact absurd hcall (hmode rfl)
  | checked liveness => exact absurd hcall (hmode rfl)
  | answered publication outcome =>
      exact absurd hcall
        (hquiet (filterMap_call?_answer supervisor now publication outcome))
  | tick =>
      rw [callsOf_step_tick, callsOf_resume, List.mem_filterMap] at hcall
      obtain ⟨⟨other, publication⟩, hheld, hresumed⟩ := hcall
      by_cases hid : other = id
      · subst hid
        rw [if_pos rfl, Option.map_eq_some_iff] at hresumed
        obtain ⟨after, hresume, rfl⟩ := hresumed
        obtain ⟨wakeUp, hpause, hdue, _⟩ := resume?_eq_some_iff.mp hresume
        exact ⟨publication, wakeUp, hheld, hpause, hdue, rfl⟩
      · rw [if_neg hid] at hresumed
        cases hresumed

namespace Ledger

variable {name : DnsName} {events : List (Instant × Event)}
  {effects : List (Instant × Effect)} {supervisor : Supervisor}

theorem mem_callsOf_run (hledger : Ledger name events effects supervisor)
    {since : Instant} {later : List (Instant × Event)}
    (hcausal : supervisor.Causal since later) {id : PublicationId}
    (hstarted : id < supervisor.started) {call : Instant × DnsRecord}
    (hcall : call ∈ callsOf id (supervisor.run later).2) :
    ¬ Succeeded id events ∧
      (∃ mapped, (mappings events)[id]? = some mapped ∧
        call.2 = ⟨name, mapped⟩) ∧
      FailedBy id (events ++ later)
        (call.1 - Publication.supervisedPause) := by
  induction later generalizing supervisor since events effects with
  | nil => simp [Supervisor.run, callsOf] at hcall
  | cons entry later ih =>
      obtain ⟨now, event⟩ := entry
      obtain ⟨_, hawaits, hlater⟩ := hcausal
      rw [Supervisor.run, callsOf_append, List.mem_append] at hcall
      rcases hcall with hnow | hrest
      · obtain ⟨publication, wakeUp, hheld, hpause, hdue, rfl⟩ :=
          mem_callsOf_step hawaits hstarted hnow
        have hretrying : Retrying name events effects id publication :=
          hledger.held _ hheld
        refine ⟨hretrying.unsuccessful, hretrying.mapped, ?_⟩
        obtain ⟨instant, reason, hmem, hle⟩ :=
          hretrying.failed wakeUp hpause
        exact
          ⟨instant, reason, List.mem_append_left _ hmem,
            Int.le_trans hle (Int.sub_le_sub_right hdue _)⟩
      · have hnext := hledger.step now hawaits
        have hgrown :
            supervisor.started ≤ (supervisor.step now event).1.started := by
          rw [hledger.started_eq, hnext.started_eq, mappings_append,
            List.length_append]
          exact Nat.le_add_right _ _
        obtain ⟨hunsuccessful, ⟨mapped, hmapped, hrecord⟩, hfailed⟩ :=
          ih hnext hlater (Nat.lt_of_lt_of_le hstarted hgrown) hrest
        rw [hledger.started_eq] at hstarted
        rw [mappings_append, List.getElem?_append_left hstarted] at hmapped
        rw [List.append_assoc, List.singleton_append] at hfailed
        refine ⟨?_, ⟨mapped, hmapped, hrecord⟩, hfailed⟩
        intro hsucceeded
        exact hunsuccessful (hsucceeded.append _)

theorem exists_call_of_pause (hledger : Ledger name events effects supervisor)
    (since : Instant) {id : PublicationId} {publication : Publication}
    (hheld : (id, publication) ∈ supervisor.publications)
    {wakeUp : Instant} (hpause : publication.pause = some wakeUp) :
    ∃ later, supervisor.Causal since later ∧
      callsOf id (supervisor.run later).2 ≠ [] := by
  have hdue : wakeUp ≤ max since wakeUp := Int.le_max_right since wakeUp
  refine ⟨[(max since wakeUp, .tick)], ?_, ?_⟩
  · exact ⟨Int.le_max_left since wakeUp, rfl, trivial⟩
  · have hresume :
        publication.resume? (max since wakeUp) =
          some { publication with pause := none } :=
      resume?_eq_some_iff.mpr ⟨wakeUp, hpause, hdue, rfl⟩
    simp only [Supervisor.run, List.append_nil]
    rw [callsOf_step_tick,
      callsOf_resume_of_mem hledger.nodup _ hheld, hresume]
    simp

/-- A call that is under way may fail, so that another one follows. -/
theorem exists_call (hledger : Ledger name events effects supervisor)
    (since : Instant) {id : PublicationId}
    (hstarted : id < supervisor.started)
    (hunsuccessful : ¬ Succeeded id events)
    (hcalls : (callsOf id effects).length < 3) :
    ∃ later, supervisor.Causal since later ∧
      callsOf id (supervisor.run later).2 ≠ [] := by
  have hpresent :
      ∃ publication, (id, publication) ∈ supervisor.publications := by
    by_contra habsent
    rcases hledger.finished id hstarted (not_exists.mp habsent) with
      hsucceeded | hthree
    · exact hunsuccessful hsucceeded
    · omega
  obtain ⟨publication, hheld⟩ := hpresent
  cases hpause : publication.pause with
  | some wakeUp => exact hledger.exists_call_of_pause since hheld hpause
  | none =>
      have hlookup :=
        (lookup_eq_some_iff_mem hledger.nodup id publication).mpr hheld
      have hawaits :
          supervisor.awaits (.answered id (.error "")) = true := by
        simp [awaits, hlookup, hpause]
      have hleft : ¬ publication.callsLeft ≤ 1 := by
        have hretrying : Retrying name events effects id publication :=
          hledger.held _ hheld
        have hcounted := hretrying.counted
        rw [if_pos hpause] at hcounted
        omega
      have hnext := hledger.step since hawaits
      have hpaused :
          (id,
              { publication with
                callsLeft := publication.callsLeft - 1
                pause := some (since + Publication.supervisedPause) }) ∈
            (supervisor.step since
              (.answered id (.error ""))).1.publications := by
        simp [Supervisor.step, Supervisor.answer, hlookup,
          Publication.answered, hleft]
      obtain ⟨later, hcausal, hcalled⟩ :=
        hnext.exists_call_of_pause since hpaused rfl
      refine ⟨(since, .answered id (.error "")) :: later, ?_, ?_⟩
      · exact ⟨Int.le_refl since, hawaits, hcausal⟩
      · rw [Supervisor.run, callsOf_append]
        exact List.append_ne_nil_of_right_ne_nil _ hcalled

end Ledger

/-- After a newer mapping is published, further calls for an older one are
possible exactly as long as none of its calls has succeeded and fewer than
three were made.  There are never more than three, and each is made some time
after a failure. -/
theorem calls_of_overtaken (name : DnsName) {supervisor : Supervisor}
    (hstart : supervisor = (startForward name).1 ∨
      supervisor = (startShared name).1)
    {since : Instant} {past : List (Instant × Event)}
    {early late : PublicationId} {older newer : Endpoint}
    (hovertaken :
      supervisor.Overtaken since past early late older newer) :
    ((∃ later, supervisor.Causal since (past ++ later) ∧
          callsOf early ((supervisor.run past).1.run later).2 ≠ []) ↔
        ¬ Succeeded early past ∧
          (callsOf early (supervisor.run past).2).length < 3) ∧
      ∀ later, supervisor.Causal since (past ++ later) →
        (callsOf early (supervisor.run past).2).length +
            (callsOf early ((supervisor.run past).1.run later).2).length ≤
          3 ∧
        ∀ call ∈ callsOf early ((supervisor.run past).1.run later).2,
          call.2 = ⟨name, older⟩ ∧
            FailedBy early (past ++ later)
              (call.1 - Publication.supervisedPause) := by
  have hledger :
      Ledger name past (supervisor.run past).2 (supervisor.run past).1 := by
    rcases hstart with rfl | rfl
    · exact (ledger_startForward name).run hovertaken.causal
    · exact (ledger_startShared name).run hovertaken.causal
  have hstarted : early < (supervisor.run past).1.started := by
    rw [hledger.started_eq]
    exact (List.getElem?_eq_some_iff.mp hovertaken.older_found).1
  have htotal {later : List (Instant × Event)}
      (hcausal : supervisor.Causal since (past ++ later)) :
      (callsOf early (supervisor.run past).2).length +
          (callsOf early ((supervisor.run past).1.run later).2).length ≤
        3 := by
    have hlater := ((causal_append _ _ _ _).mp hcausal).2
    have hbounded := (hledger.run hlater).bounded early
    rw [callsOf_append, List.length_append] at hbounded
    exact hbounded
  refine ⟨⟨?_, ?_⟩, ?_⟩
  · rintro ⟨later, hcausal, hcalled⟩
    have hlater := ((causal_append _ _ _ _).mp hcausal).2
    obtain ⟨call, hcall⟩ := List.exists_mem_of_ne_nil _ hcalled
    have hunsuccessful := (hledger.mem_callsOf_run hlater hstarted hcall).1
    have hpositive := List.length_pos_iff.mpr hcalled
    have hsum := htotal hcausal
    exact ⟨hunsuccessful, by omega⟩
  · rintro ⟨hunsuccessful, hcalls⟩
    obtain ⟨later, hlater, hcalled⟩ :=
      hledger.exists_call (lastInstant since past) hstarted hunsuccessful
        hcalls
    exact
      ⟨later, (causal_append _ _ _ _).mpr ⟨hovertaken.causal, hlater⟩,
        hcalled⟩
  · intro later hcausal
    refine ⟨htotal hcausal, ?_⟩
    intro call hcall
    have hlater := ((causal_append _ _ _ _).mp hcausal).2
    obtain ⟨_, ⟨mapped, hmapped, hrecord⟩, hfailed⟩ :=
      hledger.mem_callsOf_run hlater hstarted hcall
    have hsame : older = mapped := by
      have hfound := hovertaken.older_found
      rw [hmapped, Option.some.injEq] at hfound
      exact hfound.symm
    rw [hsame]
    exact ⟨hrecord, hfailed⟩

theorem calls_of_overtaken_retryingPast :
    ∃ later,
      (startForward retryingName).1.Causal 0 (retryingPast ++ later) ∧
        callsOf 0
            (((startForward retryingName).1.run retryingPast).1.run
              later).2 ≠ [] := by
  have hunsuccessful : ¬ Succeeded 0 retryingPast := by
    simp [Succeeded, retryingPast]
  have hcalls :
      (callsOf 0
        ((startForward retryingName).1.run retryingPast).2).length < 3 := by
    decide
  exact
    (calls_of_overtaken retryingName (Or.inl rfl)
      overtaken_retryingPast).1.mpr ⟨hunsuccessful, hcalls⟩

end Supervisor

end Pinhole
