import Mathlib.Data.List.Chain
import Pinhole.Proofs.Supervise.History

/-!
# The pace of look-ups

On a shared port the mapping is looked up again and again.  Every way from one
look-up to the next leads through a pause of a second at least, except one: a
mapping that is down when it is first checked is looked up again as soon as
the service is found up.  If everything is answered at once, nothing bounds
the number of look-ups at one instant.
-/

namespace Pinhole

namespace SharedMode

def Apart (first second : Instant) : Prop :=
  first + mappingPause ≤ second

instance (first second : Instant) : Decidable (Apart first second) :=
  inferInstanceAs (Decidable (_ ≤ _))

/-- What the phase tells about the reports since the last look-up.  Where it
does not tell them all, a pause has passed or will pass before the phase
ends. -/
def Progress (lookup now : Instant) (reports : List Event) : Phase → Prop
  | .lookingUp => reports = []
  | .checkingMapping mapped =>
      reports = [.lookedUp (.ok mapped)] ∨ Apart lookup now
  | .checkingService =>
      (∃ mapped down, down.online = false ∧
        reports = [.lookedUp (.ok mapped), .checked down]) ∨
        Apart lookup now
  | .pausing wakeUp => Apart lookup wakeUp
  | .watching _ wakeUp => Apart lookup wakeUp

/-- The reports of a mapping that is down at its first check, up to the next
look-up. -/
def Dropped (reports : List Event) : Prop :=
  ∃ mapped down up, down.online = false ∧ up.online = true ∧
    reports = [.lookedUp (.ok mapped), .checked down, .checked up]

theorem Progress.mono {lookup now later : Instant} {reports : List Event}
    {phase : Phase} (hprogress : Progress lookup now reports phase)
    (hle : now ≤ later) : Progress lookup later reports phase := by
  have hlater (hpaused : Apart lookup now) :
      Apart lookup later := Int.le_trans hpaused hle
  cases phase with
  | checkingService => exact hprogress.imp_right hlater
  | checkingMapping mapped => exact hprogress.imp_right hlater
  | lookingUp => exact hprogress
  | pausing wakeUp => exact hprogress
  | watching mapped wakeUp => exact hprogress

theorem lookUp_mem_serviceChecked {mode : SharedMode} {now : Instant}
    {liveness : Liveness} :
    .lookUp ∈ (mode.serviceChecked now liveness).2 ↔
      liveness.online = true := by
  unfold serviceChecked
  dsimp only
  split <;> split <;> simp_all

theorem lookUp_notMem_mappingChecked (mode : SharedMode) (now : Instant)
    (mapped : Endpoint) (liveness : Liveness) :
    .lookUp ∉ (mode.mappingChecked now mapped liveness).2 := by
  unfold mappingChecked
  dsimp only
  split
  · split <;> simp
  · simp

theorem phase_serviceChecked (mode : SharedMode) (now : Instant)
    (liveness : Liveness) :
    (mode.serviceChecked now liveness).1.phase =
      if liveness.online then .lookingUp
      else .pausing (now + servicePause) := by
  unfold serviceChecked
  dsimp only
  split <;> rfl

theorem phase_mappingChecked (mode : SharedMode) (now : Instant)
    (mapped : Endpoint) (liveness : Liveness) :
    (mode.mappingChecked now mapped liveness).1.phase =
      if liveness.online then .watching mapped (now + mappingPause)
      else .checkingService := by
  unfold mappingChecked
  dsimp only
  split <;> rfl

section Step

variable {lookup now : Instant} {reports : List Event} {mode : SharedMode}

theorem progress_checked_service
    (hphase : mode.phase = .checkingService) (hlookup : lookup ≤ now)
    (hprogress : Progress lookup now reports mode.phase)
    (liveness : Liveness) :
    if liveness.online then
      Apart lookup now ∨ Dropped (reports ++ [.checked liveness])
    else
      Progress lookup now (reports ++ [.checked liveness])
        (mode.serviceChecked now liveness).1.phase := by
  rw [hphase] at hprogress
  rw [phase_serviceChecked]
  cases honline : liveness.online with
  | true =>
      rcases hprogress with ⟨mapped, down, hdown, rfl⟩ | hpaused
      · right
        exact ⟨mapped, down, liveness, hdown, honline, rfl⟩
      · exact Or.inl hpaused
  | false =>
      have hpause : (mappingPause : Int) ≤ servicePause := by decide
      exact Int.add_le_add hlookup hpause

theorem progress_checked_mapping {mapped : Endpoint}
    (hphase : mode.phase = .checkingMapping mapped) (hlookup : lookup ≤ now)
    (hprogress : Progress lookup now reports mode.phase)
    (liveness : Liveness) :
    Progress lookup now (reports ++ [.checked liveness])
      (mode.mappingChecked now mapped liveness).1.phase := by
  rw [hphase] at hprogress
  rw [phase_mappingChecked]
  cases honline : liveness.online with
  | true =>
      exact Int.add_le_add_right hlookup mappingPause
  | false =>
      rcases hprogress with rfl | hpaused
      · left
        exact ⟨mapped, liveness, honline, rfl⟩
      · exact Or.inr hpaused

theorem progress_tick (hprogress : Progress lookup now reports mode.phase) :
    Progress lookup now reports (mode.step now .tick).1.phase := by
  cases hphase : mode.phase with
  | pausing wakeUp =>
      rw [hphase] at hprogress
      simp only [step, hphase]
      split
      · rename_i hdue
        exact Or.inr (Int.le_trans hprogress hdue)
      · rwa [hphase]
  | watching mapped wakeUp =>
      rw [hphase] at hprogress
      simp only [step, hphase]
      split
      · rename_i hdue
        exact Or.inr (Int.le_trans hprogress hdue)
      · rwa [hphase]
  | lookingUp => simpa [step, hphase] using hprogress
  | checkingService => simpa [step, hphase] using hprogress
  | checkingMapping mapped => simpa [step, hphase] using hprogress

theorem progress_lookedUp (hphase : mode.phase = .lookingUp)
    (hlookup : lookup ≤ now)
    (hprogress : Progress lookup now reports mode.phase)
    (outcome : Except StunError Endpoint) :
    Progress lookup now (reports ++ [.lookedUp outcome])
      (mode.step now (.lookedUp outcome)).1.phase := by
  rw [hphase] at hprogress
  have hreports : reports = [] := hprogress
  subst hreports
  cases outcome with
  | ok mapped =>
      simp only [step, hphase]
      exact Or.inl rfl
  | error error =>
      simp only [step, hphase]
      have hpause : (mappingPause : Int) ≤ ForwardMode.lookupPause := by
        decide
      exact Int.add_le_add hlookup hpause

/-- A look-up starts only when the service is found up. -/
theorem lookUp_mem_step {event : Event}
    (hlookUp : .lookUp ∈ (mode.step now event).2) :
    mode.phase = .checkingService ∧
      ∃ up, event = .checked up ∧ up.online = true := by
  revert hlookUp
  unfold step
  split
  · rename_i liveness hphase
    intro hlookUp
    exact ⟨hphase, liveness, rfl, lookUp_mem_serviceChecked.mp hlookUp⟩
  · simp
  · simp
  · intro hlookUp
    exact absurd hlookUp (lookUp_notMem_mappingChecked _ _ _ _)
  · split <;> simp
  · split <;> simp
  · simp

theorem count_lookUp_step_le (mode : SharedMode) (now : Instant)
    (event : Event) : (mode.step now event).2.count .lookUp ≤ 1 := by
  unfold step
  split
  · unfold serviceChecked
    dsimp only
    split <;> split <;> simp
  · simp
  · simp
  · rw [List.count_eq_zero_of_not_mem (lookUp_notMem_mappingChecked _ _ _ _)]
    exact Nat.zero_le 1
  · split <;> simp
  · split <;> simp
  · simp

theorem phase_step_of_lookUp {event : Event}
    (hlookUp : .lookUp ∈ (mode.step now event).2) :
    (mode.step now event).1.phase = .lookingUp := by
  obtain ⟨hphase, up, rfl, hup⟩ := lookUp_mem_step hlookUp
  simp only [step, hphase]
  rw [phase_serviceChecked, if_pos hup]

/-! The three reports by which a mapping is dropped at once. -/

theorem step_found (hphase : mode.phase = .lookingUp) (now : Instant)
    (mapped : Endpoint) :
    (mode.step now (.lookedUp (.ok mapped))).1.phase =
        .checkingMapping mapped ∧
      (mode.step now (.lookedUp (.ok mapped))).2.count .lookUp = 0 := by
  simp [step, hphase]

theorem step_down {mapped : Endpoint}
    (hphase : mode.phase = .checkingMapping mapped) (now : Instant)
    (reason : String) :
    (mode.step now (.checked ⟨false, reason⟩)).1.phase = .checkingService ∧
      (mode.step now (.checked ⟨false, reason⟩)).2.count .lookUp = 0 := by
  simp [step, hphase, mappingChecked]

theorem step_up (hphase : mode.phase = .checkingService) (now : Instant)
    (reason : String) :
    (mode.step now (.checked ⟨true, reason⟩)).1.phase = .lookingUp ∧
      (mode.step now (.checked ⟨true, reason⟩)).2.count .lookUp = 1 := by
  simp only [step, hphase, serviceChecked, if_true, true_and]
  split <;> simp

def Expects (mode : SharedMode) : Event → Prop
  | .lookedUp _ => mode.phase = .lookingUp
  | .checked _ =>
      mode.phase = .checkingService ∨
        ∃ mapped, mode.phase = .checkingMapping mapped
  | .tick => True

/-- What an event reports, other than that time passes. -/
def Event.report? : Event → Option Event
  | .tick => none
  | event => some event

/-- One event either brings no look-up, or brings one after a pause or after
the mapping was down at its first check. -/
theorem progress_step (hprogress : Progress lookup now reports mode.phase)
    (hlookup : lookup ≤ now) {event : Event} (hexpects : mode.Expects event) :
    if .lookUp ∈ (mode.step now event).2 then
      Apart lookup now ∨
        Dropped (reports ++ event.report?.toList)
    else
      Progress lookup now (reports ++ event.report?.toList)
        (mode.step now event).1.phase := by
  by_cases hlookUp : .lookUp ∈ (mode.step now event).2
  · rw [if_pos hlookUp]
    obtain ⟨hphase, up, rfl, hup⟩ := lookUp_mem_step hlookUp
    have hchecked := progress_checked_service hphase hlookup hprogress up
    rw [if_pos hup] at hchecked
    exact hchecked
  · rw [if_neg hlookUp]
    cases event with
    | lookedUp outcome =>
        exact progress_lookedUp hexpects hlookup hprogress outcome
    | checked liveness =>
        rcases hexpects with hphase | ⟨mapped, hphase⟩
        · have hchecked :=
            progress_checked_service hphase hlookup hprogress liveness
          have hdown : ¬ liveness.online = true := by
            simpa [step, hphase, lookUp_mem_serviceChecked] using hlookUp
          rw [if_neg hdown] at hchecked
          simp only [step, hphase]
          exact hchecked
        · have hchecked :=
            progress_checked_mapping hphase hlookup hprogress liveness
          simp only [step, hphase]
          exact hchecked
    | tick =>
        rw [Event.report?, Option.toList_none, List.append_nil]
        exact progress_tick hprogress

end Step

end SharedMode

namespace Supervisor

/-- What a history reports to the shared mode, other than that time
passes. -/
def reports (events : List (Instant × Event)) : List SharedMode.Event :=
  events.filterMap fun entry =>
    entry.2.toShared?.bind SharedMode.Event.report?

def lookups (effects : List (Instant × Effect)) : List Instant :=
  effects.filterMap fun entry =>
    if entry.2 = .lookUp then some entry.1 else none

@[simp] theorem reports_append (events later : List (Instant × Event)) :
    reports (events ++ later) = reports events ++ reports later :=
  List.filterMap_append

@[simp] theorem lookups_append (effects later : List (Instant × Effect)) :
    lookups (effects ++ later) = lookups effects ++ lookups later :=
  List.filterMap_append

theorem lookups_map (effects : List Effect) (now : Instant) :
    lookups (effects.map (now, ·)) =
      List.replicate (effects.count .lookUp) now := by
  induction effects with
  | nil => rfl
  | cons effect effects ih =>
      rw [List.map_cons, ← List.singleton_append, lookups_append, ih]
      by_cases heffect : effect = .lookUp
      · subst heffect
        rw [List.count_cons_self, List.replicate_succ]
        rfl
      · rw [List.count_cons_of_ne heffect]
        simp [lookups, heffect]

/-! ## Events of a supervisor on a shared port -/

theorem mode_ofShared (supervisor : Supervisor)
    (effects : List SharedMode.Effect) :
    (supervisor.ofShared effects).1.mode = supervisor.mode := by
  induction effects generalizing supervisor with
  | nil => rfl
  | cons effect later ih => cases effect <;> exact ih _

theorem count_lookUp_ofShared (supervisor : Supervisor)
    (effects : List SharedMode.Effect) :
    (supervisor.ofShared effects).2.count .lookUp =
      effects.count .lookUp := by
  induction effects generalizing supervisor with
  | nil => rfl
  | cons effect later ih =>
      cases effect <;> simp [ofShared, ih, publish_eq]

theorem count_lookUp_resume (supervisor : Supervisor) (now : Instant) :
    (supervisor.resume now).2.count .lookUp = 0 := by
  rw [List.count_eq_zero]
  simp [resume]

theorem mode_answer (supervisor : Supervisor) (now : Instant)
    (id : PublicationId) (outcome : Except String Unit) :
    (supervisor.answer now id outcome).1.mode = supervisor.mode ∧
      (supervisor.answer now id outcome).2.count .lookUp = 0 := by
  unfold answer
  cases supervisor.publications.lookup id with
  | none => simp
  | some publication =>
      cases outcome <;> dsimp only <;> split <;> simp

theorem step_of_toShared? {supervisor : Supervisor} {mode : SharedMode}
    (hmode : supervisor.mode = .shared mode) (now : Instant)
    {event : Event} {known : SharedMode.Event}
    (hknown : event.toShared? = some known) :
    (supervisor.step now event).1.mode = .shared (mode.step now known).1 ∧
      (supervisor.step now event).2.count .lookUp =
        (mode.step now known).2.count .lookUp := by
  have hshared :
      (supervisor.stepMode now event).1.mode =
          .shared (mode.step now known).1 ∧
        (supervisor.stepMode now event).2.count .lookUp =
          (mode.step now known).2.count .lookUp := by
    simp only [stepMode, hmode, hknown]
    exact ⟨mode_ofShared _ _, count_lookUp_ofShared _ _⟩
  cases event with
  | lookedUp outcome => exact hshared
  | checked liveness => exact hshared
  | tick =>
      refine ⟨hshared.1, ?_⟩
      rw [← hshared.2]
      simp [Supervisor.step, count_lookUp_resume]
  | engineEnded outcome => cases hknown
  | answered id outcome => cases hknown

theorem step_of_toShared?_eq_none {supervisor : Supervisor}
    {mode : SharedMode} (hmode : supervisor.mode = .shared mode)
    (now : Instant) {event : Event} (hnone : event.toShared? = none) :
    (supervisor.step now event).1.mode = .shared mode ∧
      (supervisor.step now event).2.count .lookUp = 0 := by
  cases event with
  | lookedUp outcome => cases hnone
  | checked liveness => cases hnone
  | tick => cases hnone
  | engineEnded outcome =>
      simp [Supervisor.step, stepMode, hmode, Event.toShared?]
  | answered id outcome =>
      obtain ⟨hsame, hcount⟩ := mode_answer supervisor now id outcome
      exact ⟨hsame.trans hmode, hcount⟩

theorem expects_of_awaits {supervisor : Supervisor} {mode : SharedMode}
    (hmode : supervisor.mode = .shared mode) {event : Event}
    (hawaits : supervisor.awaits event = true) {known : SharedMode.Event}
    (hknown : event.toShared? = some known) : mode.Expects known := by
  obtain ⟨phase, serviceFilter, mappingFilter⟩ := mode
  cases event with
  | lookedUp outcome =>
      cases hknown
      simpa [awaits, hmode, SharedMode.Expects] using hawaits
  | checked liveness =>
      cases hknown
      cases phase <;> simp_all [awaits, SharedMode.Expects]
  | tick =>
      cases hknown
      trivial
  | engineEnded outcome => cases hknown
  | answered id outcome => cases hknown

theorem awaits_checked {supervisor : Supervisor} {mode : SharedMode}
    (hmode : supervisor.mode = .shared mode) {liveness : Liveness}
    (hexpects : mode.Expects (.checked liveness)) :
    supervisor.awaits (.checked liveness) = true := by
  obtain ⟨phase, serviceFilter, mappingFilter⟩ := mode
  rcases hexpects with hphase | ⟨mapped, hphase⟩ <;>
    cases hphase <;> simp [awaits, hmode]

/-- How far a supervisor has come since a look-up. -/
def Paced (supervisor : Supervisor) (lookup now : Instant)
    (reported : List SharedMode.Event) : Prop :=
  ∃ mode, supervisor.mode = .shared mode ∧
    SharedMode.Progress lookup now reported mode.phase

namespace Paced

variable {supervisor : Supervisor} {lookup now : Instant}
  {reported : List SharedMode.Event}

theorem step (hpaced : supervisor.Paced lookup now reported)
    {later : Instant} (hlookup : lookup ≤ now) (hle : now ≤ later)
    {event : Event} (hawaits : supervisor.awaits event = true) :
    lookups ((supervisor.step later event).2.map (later, ·)) = [] ∧
        (supervisor.step later event).1.Paced lookup later
          (reported ++ reports [(later, event)]) ∨
      lookups ((supervisor.step later event).2.map (later, ·)) = [later] ∧
        (supervisor.step later event).1.Paced later later [] ∧
        (SharedMode.Apart lookup later ∨
          SharedMode.Dropped (reported ++ reports [(later, event)])) := by
  obtain ⟨mode, hmode, hprogress⟩ := hpaced
  have hnow := hprogress.mono hle
  rw [lookups_map]
  cases hevent : event.toShared? with
  | none =>
      left
      obtain ⟨hafter, hcount⟩ := step_of_toShared?_eq_none hmode later hevent
      have hreports : reports [(later, event)] = [] := by
        simp [reports, hevent]
      rw [hcount, hreports, List.append_nil]
      exact ⟨rfl, mode, hafter, hnow⟩
  | some known =>
      obtain ⟨hafter, hcount⟩ := step_of_toShared? hmode later hevent
      have hreports :
          reports [(later, event)] = known.report?.toList := by
        cases hreport : known.report? <;> simp [reports, hevent, hreport]
      have hstep :=
        SharedMode.progress_step hnow (Int.le_trans hlookup hle)
          (expects_of_awaits hmode hawaits hevent)
      rw [hcount, hreports]
      by_cases hlookUp : .lookUp ∈ (mode.step later known).2
      · right
        rw [if_pos hlookUp] at hstep
        have hone : (mode.step later known).2.count .lookUp = 1 :=
          Nat.le_antisymm (SharedMode.count_lookUp_step_le _ _ _)
            (List.count_pos_iff.mpr hlookUp)
        refine ⟨by rw [hone]; rfl, ⟨_, hafter, ?_⟩, hstep⟩
        rw [SharedMode.phase_step_of_lookUp hlookUp]
        rfl
      · left
        rw [if_neg hlookUp] at hstep
        rw [List.count_eq_zero.mpr hlookUp]
        exact ⟨rfl, _, hafter, hstep⟩

theorem isChain_lookups (hpaced : supervisor.Paced lookup now reported)
    (hlookup : lookup ≤ now) {events : List (Instant × Event)}
    (hcausal : supervisor.Causal now events)
    (hup : ∀ mapped check,
      [.lookedUp (.ok mapped), .checked check] <:+:
          reported ++ reports events →
        check.online = true) :
    (lookup :: lookups (supervisor.run events).2).IsChain
      SharedMode.Apart := by
  -- The last look-up stays in front of the list, so that the next one is
  -- compared with it; what was reported since then tells whether a pause fits.
  induction events generalizing supervisor lookup now reported with
  | nil => simp [Supervisor.run, lookups]
  | cons entry events ih =>
      obtain ⟨later, event⟩ := entry
      obtain ⟨hle, hawaits, hcausal⟩ := hcausal
      have hreports :
          reported ++ reports ((later, event) :: events) =
            reported ++ reports [(later, event)] ++ reports events := by
        rw [List.append_assoc, ← reports_append, List.singleton_append]
      rw [hreports] at hup
      rw [Supervisor.run, lookups_append]
      rcases hpaced.step hlookup hle hawaits with
        ⟨hnone, hnext⟩ | ⟨hone, hnext, hapart⟩
      · rw [hnone, List.nil_append]
        exact ih hnext (Int.le_trans hlookup hle) hcausal hup
      · rw [hone, List.singleton_append, List.isChain_cons_cons]
        constructor
        · rcases hapart with hapart | ⟨mapped, down, up, hdown, _, hdropped⟩
          · exact hapart
          · exfalso
            have honline := hup mapped down ?_
            · rw [hdown] at honline
              cases honline
            · rw [hdropped]
              exact ⟨[], .checked up :: reports events, rfl⟩
        · refine ih hnext (Int.le_refl later) hcausal ?_
          intro mapped check hmem
          apply hup mapped check
          exact hmem.trans (List.suffix_append _ _).isInfix

end Paced

/-- Look-ups are a second apart at least as long as every mapping that is
found is up when it is first checked. -/
theorem isChain_lookups_startShared (name : DnsName) {since : Instant}
    {events : List (Instant × Event)}
    (hcausal : (startShared name).1.Causal since events)
    (hup : ∀ mapped check,
      [.lookedUp (.ok mapped), .checked check] <:+: reports events →
        check.online = true) :
    (lookups ((startShared name).1.run events).2).IsChain
      SharedMode.Apart := by
  have hpaced :
      (startShared name).1.Paced (since - SharedMode.mappingPause) since [] :=
    ⟨SharedMode.start.1, rfl,
      Or.inr (Int.le_of_eq (Int.sub_add_cancel _ _))⟩
  have hlookup : since - SharedMode.mappingPause ≤ since :=
    Int.sub_le_self _ (Int.natCast_nonneg _)
  exact (hpaced.isChain_lookups hlookup hcausal hup).tail

/-- A mapping that is up for a second. -/
def shortLived : List (Instant × Event) :=
  let later : Instant := Duration.seconds 1
  [(0, .checked ⟨true, "port available"⟩),
    (0, .lookedUp (.ok ⟨⟨203, 0, 113, 7⟩, 4100⟩)),
    (0, .checked ⟨true, "port available"⟩),
    (later, .tick),
    (later, .checked ⟨false, "connect refused"⟩),
    (later, .checked ⟨true, "port available"⟩)]

theorem isChain_lookups_startShared_shortLived :
    lookups ((startShared ⟨"_minecraft._tcp.", "mc", "example.com"⟩).1.run
        shortLived).2 = [0, (Duration.seconds 1 : Int)] ∧
      (lookups ((startShared ⟨"_minecraft._tcp.", "mc", "example.com"⟩).1.run
        shortLived).2).IsChain SharedMode.Apart := by
  refine ⟨by decide, ?_⟩
  have hcausal :
      (startShared ⟨"_minecraft._tcp.", "mc", "example.com"⟩).1.Causal 0
        shortLived := by
    decide
  apply isChain_lookups_startShared _ hcausal
  intro mapped check hmem
  have hreports :
      reports shortLived =
        [.checked ⟨true, "port available"⟩,
          .lookedUp (.ok ⟨⟨203, 0, 113, 7⟩, 4100⟩),
          .checked ⟨true, "port available"⟩,
          .checked ⟨false, "connect refused"⟩,
          .checked ⟨true, "port available"⟩] := rfl
  rw [hreports] at hmem
  simp only [List.infix_cons_iff, List.cons_prefix_cons, reduceCtorEq,
    SharedMode.Event.checked.injEq, false_and, false_or, List.infix_nil,
    or_false] at hmem
  rw [hmem.2.1]

/-! ## Look-ups at one instant -/

theorem run_append (supervisor : Supervisor)
    (events later : List (Instant × Event)) :
    supervisor.run (events ++ later) =
      (((supervisor.run events).1.run later).1,
        (supervisor.run events).2 ++
          ((supervisor.run events).1.run later).2) := by
  induction events generalizing supervisor with
  | nil => rfl
  | cons entry events ih =>
      simp only [List.cons_append, Supervisor.run, ih, List.append_assoc]

/-- A mapping is found and refuses a connection, while the service accepts
one; nothing of this takes any time. -/
def refusal (mapped : Endpoint) : List (Instant × Event) :=
  [(0, .lookedUp (.ok mapped)),
    (0, .checked ⟨false, "connect refused"⟩),
    (0, .checked ⟨true, "port available"⟩)]

theorem run_refusal {supervisor : Supervisor} {mode : SharedMode}
    (hmode : supervisor.mode = .shared mode)
    (hphase : mode.phase = .lookingUp) (mapped : Endpoint) :
    supervisor.Causal 0 (refusal mapped) ∧
      lookups (supervisor.run (refusal mapped)).2 = [0] ∧
      ∃ mode, (supervisor.run (refusal mapped)).1.mode = .shared mode ∧
        mode.phase = .lookingUp := by
  have hfoundEvent :
      (Event.lookedUp (.ok mapped)).toShared? =
        some (.lookedUp (.ok mapped)) := rfl
  have hcheckedEvent (liveness : Liveness) :
      (Event.checked liveness).toShared? = some (.checked liveness) := rfl
  obtain ⟨hfound, hfoundCount⟩ := step_of_toShared? hmode 0 hfoundEvent
  obtain ⟨hfoundPhase, hfoundQuiet⟩ :=
    SharedMode.step_found hphase 0 mapped
  obtain ⟨hdown, hdownCount⟩ :=
    step_of_toShared? hfound 0 (hcheckedEvent ⟨false, "connect refused"⟩)
  obtain ⟨hdownPhase, hdownQuiet⟩ :=
    SharedMode.step_down hfoundPhase 0 "connect refused"
  obtain ⟨hup, hupCount⟩ :=
    step_of_toShared? hdown 0 (hcheckedEvent ⟨true, "port available"⟩)
  obtain ⟨hupPhase, hupOnce⟩ :=
    SharedMode.step_up hdownPhase 0 "port available"
  refine ⟨?_, ?_, _, hup, hupPhase⟩
  · refine ⟨Int.le_refl 0, ?_, Int.le_refl 0, ?_, Int.le_refl 0, ?_, trivial⟩
    · simp [awaits, hmode, hphase]
    · exact awaits_checked hfound (Or.inr ⟨mapped, hfoundPhase⟩)
    · exact awaits_checked hdown (Or.inl hdownPhase)
  · simp only [refusal, Supervisor.run, lookups_append, lookups_map,
      hfoundCount, hdownCount, hupCount, hfoundQuiet, hdownQuiet, hupOnce]
    rfl

/-- The service is up, and each mapping that is found refuses. -/
def refusals (mapped : Endpoint) : (count : Nat) → List (Instant × Event)
  | 0 => []
  | count + 1 => refusal mapped ++ refusals mapped count

theorem run_refusals {supervisor : Supervisor} {mode : SharedMode}
    (hmode : supervisor.mode = .shared mode)
    (hphase : mode.phase = .lookingUp) (mapped : Endpoint) (count : Nat) :
    supervisor.Causal 0 (refusals mapped count) ∧
      lookups (supervisor.run (refusals mapped count)).2 =
        List.replicate count 0 := by
  induction count generalizing supervisor mode with
  | zero => simp [refusals, Causal, Supervisor.run, lookups]
  | succ count ih =>
      obtain ⟨hcausal, hone, after, hafter, hlookingUp⟩ :=
        run_refusal hmode hphase mapped
      obtain ⟨hrest, hlookups⟩ := ih hafter hlookingUp
      constructor
      · exact (causal_append _ _ _ _).mpr ⟨hcausal, hrest⟩
      · rw [refusals, run_append, lookups_append, hone, hlookups]
        rfl

theorem mappings_refusals (mapped : Endpoint) (count : Nat) :
    mappings (refusals mapped count) = List.replicate count mapped := by
  induction count with
  | zero => rfl
  | succ count ih =>
      rw [refusals, mappings_append, ih]
      rfl

/-- The run of a service that is up and whose mappings all refuse. -/
def hotRun (mapped : Endpoint) (count : Nat) : List (Instant × Event) :=
  (0, .checked ⟨true, "port available"⟩) :: refusals mapped count

/-- With answers that take no time there are as many look-ups, and as many
publications, at one instant as one likes. -/
theorem lookups_hotRun (name : DnsName) (mapped : Endpoint) (count : Nat) :
    (startShared name).1.Causal 0 (hotRun mapped count) ∧
      lookups ((startShared name).1.run (hotRun mapped count)).2 =
        List.replicate (count + 1) 0 ∧
      ((startShared name).1.run (hotRun mapped count)).1.started = count := by
  have hservice :
      ((startShared name).1.step 0
        (.checked ⟨true, "port available"⟩)).1.mode =
          .shared
            (SharedMode.start.1.step 0
              (.checked ⟨true, "port available"⟩)).1 := rfl
  obtain ⟨hrest, hlookups⟩ := run_refusals hservice rfl mapped count
  have hcausal : (startShared name).1.Causal 0 (hotRun mapped count) :=
    ⟨Int.le_refl 0, rfl, hrest⟩
  refine ⟨hcausal, ?_, ?_⟩
  · rw [hotRun, Supervisor.run, lookups_append, hlookups]
    rfl
  · have hmappings :
        mappings (hotRun mapped count) = List.replicate count mapped :=
      mappings_refusals mapped count
    have hledger := (ledger_startShared name).run hcausal
    rw [hledger.started_eq, List.nil_append, hmappings, List.length_replicate]

/-- Whatever happens, look-ups are a second apart at least. -/
def LookupsApart (supervisor : Supervisor) : Prop :=
  ∀ since events, supervisor.Causal since events →
    (lookups (supervisor.run events).2).IsChain SharedMode.Apart

theorem not_lookupsApart_startShared :
    ¬ LookupsApart
      (startShared ⟨"_minecraft._tcp.", "mc", "example.com"⟩).1 := by
  intro hapart
  obtain ⟨hcausal, hlookups, _⟩ :=
    lookups_hotRun ⟨"_minecraft._tcp.", "mc", "example.com"⟩
      ⟨⟨203, 0, 113, 7⟩, 4100⟩ 1
  have hchain := hapart 0 _ hcausal
  rw [hlookups] at hchain
  have hpair : SharedMode.Apart 0 0 :=
    (List.isChain_cons_cons.mp hchain).1
  exact absurd hpair (by decide)

end Supervisor

end Pinhole
