import Mathlib.Data.List.Nodup
import Pinhole.Proofs.Lookup
import Pinhole.Supervise.Supervisor

/-!
# What a supervisor's history tells about its publications

A supervisor reacts to what its surroundings do, and these answer only what
was asked.  In such a history the n-th mapping that was found is the n-th
publication, and the state of a publication can be read off the answers and
the calls so far.  The ledger below says how, and every event keeps it.
-/

namespace Pinhole

theorem ForwardMode.publish_not_mem_step (mode : ForwardMode) (now : Instant)
    {event : ForwardMode.Event}
    (hevent : ∀ mapped, event ≠ .lookedUp (.ok mapped)) (mapped : Endpoint) :
    .publish mapped ∉ (mode.step now event).2 := by
  unfold ForwardMode.step
  split
  · exact absurd rfl (hevent _)
  · simp
  · simp
  · split <;> simp
  · simp

theorem SharedMode.publish_not_mem_step (mode : SharedMode) (now : Instant)
    {event : SharedMode.Event}
    (hevent : ∀ mapped, event ≠ .lookedUp (.ok mapped)) (mapped : Endpoint) :
    .publish mapped ∉ (mode.step now event).2 := by
  unfold SharedMode.step
  split
  · unfold SharedMode.serviceChecked
    dsimp only
    split <;> split <;> simp
  · exact absurd rfl (hevent _)
  · simp
  · unfold SharedMode.mappingChecked
    dsimp only
    split
    · split <;> simp
    · simp
  · split <;> simp
  · split <;> simp
  · simp

namespace Supervisor

/-! ## Histories -/

/-- Whether an event can come next: only what was asked for is answered. -/
def awaits (supervisor : Supervisor) : Event → Bool
  | .lookedUp _ =>
      match supervisor.mode with
      | .forward mode => mode = .lookingUp
      | .shared mode => mode.phase = .lookingUp
  | .engineEnded _ =>
      match supervisor.mode with
      | .forward (.running _) => true
      | _ => false
  | .checked _ =>
      match supervisor.mode with
      | .shared ⟨.checkingService, _, _⟩ => true
      | .shared ⟨.checkingMapping _, _, _⟩ => true
      | _ => false
  | .answered id _ =>
      match supervisor.publications.lookup id with
      | some publication => publication.pause = none
      | none => false
  | .tick => true

/-- Events that can happen one after another, none before `since`. -/
def Causal (supervisor : Supervisor) (since : Instant) :
    List (Instant × Event) → Prop
  | [] => True
  | (now, event) :: later =>
      since ≤ now ∧ supervisor.awaits event = true ∧
        (supervisor.step now event).1.Causal now later

instance decidableCausal (supervisor : Supervisor) (since : Instant)
    (events : List (Instant × Event)) :
    Decidable (supervisor.Causal since events) :=
  match events with
  | [] => inferInstanceAs (Decidable True)
  | (now, event) :: later =>
      have := decidableCausal (supervisor.step now event).1 now later
      inferInstanceAs (Decidable (_ ∧ _ ∧ _))

def Event.mapping? : Event → Option Endpoint
  | .lookedUp (.ok mapped) => some mapped
  | _ => none

/-- The mappings that were found, in order. -/
def mappings (events : List (Instant × Event)) : List Endpoint :=
  events.filterMap fun entry => entry.2.mapping?

/-- A call of a publication was answered with success. -/
def Succeeded (id : PublicationId) (events : List (Instant × Event)) : Prop :=
  ∃ now, (now, Event.answered id (.ok ())) ∈ events

/-- A call of a publication failed, no later than an instant. -/
def FailedBy (id : PublicationId) (events : List (Instant × Event))
    (instant : Instant) : Prop :=
  ∃ now reason, (now, Event.answered id (.error reason)) ∈ events ∧
    now ≤ instant

/-- The call of the provider that an effect is, if a certain publication makes
it. -/
def callOf? (id : PublicationId) :
    Instant × Effect → Option (Instant × DnsRecord)
  | (now, .callProvider publication record) =>
      if publication = id then some (now, record) else none
  | _ => none

def callsOf (id : PublicationId) (effects : List (Instant × Effect)) :
    List (Instant × DnsRecord) :=
  effects.filterMap (callOf? id)

@[simp] theorem mappings_append (events later : List (Instant × Event)) :
    mappings (events ++ later) = mappings events ++ mappings later :=
  List.filterMap_append

@[simp] theorem callsOf_append (id : PublicationId)
    (effects later : List (Instant × Effect)) :
    callsOf id (effects ++ later) = callsOf id effects ++ callsOf id later :=
  List.filterMap_append

theorem Succeeded.append {id : PublicationId}
    {events : List (Instant × Event)} (hsucceeded : Succeeded id events)
    (later : List (Instant × Event)) : Succeeded id (events ++ later) := by
  obtain ⟨now, hmem⟩ := hsucceeded
  exact ⟨now, List.mem_append_left _ hmem⟩

theorem FailedBy.append {id : PublicationId}
    {events : List (Instant × Event)} {instant : Instant}
    (hfailed : FailedBy id events instant)
    (later : List (Instant × Event)) :
    FailedBy id (events ++ later) instant := by
  obtain ⟨now, reason, hmem, hle⟩ := hfailed
  exact ⟨now, reason, List.mem_append_left _ hmem, hle⟩

/-- The instant of the last event. -/
def lastInstant (since : Instant) : List (Instant × Event) → Instant
  | [] => since
  | (now, _) :: later => lastInstant now later

theorem causal_append (supervisor : Supervisor) (since : Instant)
    (events later : List (Instant × Event)) :
    supervisor.Causal since (events ++ later) ↔
      supervisor.Causal since events ∧
        (supervisor.run events).1.Causal (lastInstant since events) later := by
  induction events generalizing supervisor since with
  | nil => simp [Causal, run, lastInstant]
  | cons entry events ih =>
      obtain ⟨now, event⟩ := entry
      simp only [List.cons_append, Causal, run, lastInstant, ih, and_assoc]

/-! ## What an event does to the publications -/

def Effect.call? : Effect → Option (PublicationId × DnsRecord)
  | .callProvider publication record => some (publication, record)
  | _ => none

theorem callsOf_map (effects : List Effect) (id : PublicationId)
    (now : Instant) :
    callsOf id (effects.map (now, ·)) =
      (effects.filterMap Effect.call?).filterMap fun call =>
        if call.1 = id then some (now, call.2) else none := by
  unfold callsOf
  rw [List.filterMap_map, List.filterMap_filterMap]
  apply List.filterMap_congr
  intro effect _
  cases effect <;> rfl

theorem callsOf_map_eq_nil {effects : List Effect}
    (hnone : effects.filterMap Effect.call? = []) (id : PublicationId)
    (now : Instant) : callsOf id (effects.map (now, ·)) = [] := by
  rw [callsOf_map, hnone, List.filterMap_nil]

/-- A publication whose first call is under way. -/
def opening (supervisor : Supervisor) (mapped : Endpoint) : Publication :=
  ⟨⟨supervisor.name, mapped⟩, 3, none⟩

theorem publish_eq (supervisor : Supervisor) (mapped : Endpoint) :
    supervisor.publish mapped =
      ({ supervisor with
          publications := supervisor.publications ++
            [(supervisor.started, supervisor.opening mapped)]
          started := supervisor.started + 1 },
        [.callProvider supervisor.started ⟨supervisor.name, mapped⟩]) :=
  rfl

theorem ofForward_of_forall_ne_publish (supervisor : Supervisor)
    {effects : List ForwardMode.Effect}
    (hnone : ∀ mapped, .publish mapped ∉ effects) :
    (supervisor.ofForward effects).1 = supervisor ∧
      (supervisor.ofForward effects).2.filterMap Effect.call? = [] := by
  induction effects with
  | nil => exact ⟨rfl, rfl⟩
  | cons effect later ih =>
      have hlater := ih fun mapped hmem =>
        hnone mapped (List.mem_cons_of_mem _ hmem)
      cases effect with
      | publish mapped => exact absurd List.mem_cons_self (hnone mapped)
      | lookUp => simpa [ofForward, Effect.call?] using hlater
      | startEngine mapped => simpa [ofForward, Effect.call?] using hlater
      | log line => simpa [ofForward, Effect.call?] using hlater

theorem ofShared_of_forall_ne_publish (supervisor : Supervisor)
    {effects : List SharedMode.Effect}
    (hnone : ∀ mapped, .publish mapped ∉ effects) :
    (supervisor.ofShared effects).1 = supervisor ∧
      (supervisor.ofShared effects).2.filterMap Effect.call? = [] := by
  induction effects with
  | nil => exact ⟨rfl, rfl⟩
  | cons effect later ih =>
      have hlater := ih fun mapped hmem =>
        hnone mapped (List.mem_cons_of_mem _ hmem)
      cases effect with
      | publish mapped => exact absurd List.mem_cons_self (hnone mapped)
      | checkService => simpa [ofShared, Effect.call?] using hlater
      | checkMapping mapped => simpa [ofShared, Effect.call?] using hlater
      | lookUp => simpa [ofShared, Effect.call?] using hlater
      | log line => simpa [ofShared, Effect.call?] using hlater

/-- A mapping that was waited for is published. -/
theorem stepMode_lookedUp_ok {supervisor : Supervisor} {mapped : Endpoint}
    (hawaits : supervisor.awaits (.lookedUp (.ok mapped)) = true)
    (now : Instant) :
    ∃ mode effects,
      supervisor.stepMode now (.lookedUp (.ok mapped)) =
          ({ (supervisor.publish mapped).1 with mode := mode }, effects) ∧
        effects.filterMap Effect.call? =
          [(supervisor.started, ⟨supervisor.name, mapped⟩)] := by
  obtain ⟨name, mode, publications, started⟩ := supervisor
  cases mode with
  | forward mode =>
      have hmode : mode = .lookingUp := by simpa [awaits] using hawaits
      subst hmode
      exact ⟨_, _, rfl, rfl⟩
  | shared mode =>
      obtain ⟨phase, serviceFilter, mappingFilter⟩ := mode
      have hphase : phase = .lookingUp := by simpa [awaits] using hawaits
      subst hphase
      exact ⟨_, _, rfl, rfl⟩

/-- Nothing else makes the mode publish. -/
theorem stepMode_of_mapping?_eq_none (supervisor : Supervisor)
    (now : Instant) {event : Event} (hnone : event.mapping? = none) :
    ∃ mode effects,
      supervisor.stepMode now event =
          ({ supervisor with mode := mode }, effects) ∧
        effects.filterMap Effect.call? = [] := by
  obtain ⟨name, mode, publications, started⟩ := supervisor
  cases mode with
  | forward mode =>
      cases hevent : event.toForward? with
      | none =>
          refine ⟨.forward mode, [], ?_, rfl⟩
          simp only [stepMode, hevent]
      | some known =>
          have hknown : ∀ mapped, known ≠ .lookedUp (.ok mapped) := by
            rintro mapped rfl
            cases event <;> simp_all [Event.toForward?, Event.mapping?]
          have hcarried :=
            ofForward_of_forall_ne_publish
              ⟨name, .forward (mode.step now known).1, publications, started⟩
              (ForwardMode.publish_not_mem_step mode now hknown)
          refine ⟨.forward (mode.step now known).1, _, ?_, hcarried.2⟩
          simp only [stepMode, hevent]
          exact Prod.ext hcarried.1 rfl
  | shared mode =>
      cases hevent : event.toShared? with
      | none =>
          refine ⟨.shared mode, [], ?_, rfl⟩
          simp only [stepMode, hevent]
      | some known =>
          have hknown : ∀ mapped, known ≠ .lookedUp (.ok mapped) := by
            rintro mapped rfl
            cases event <;> simp_all [Event.toShared?, Event.mapping?]
          have hcarried :=
            ofShared_of_forall_ne_publish
              ⟨name, .shared (mode.step now known).1, publications, started⟩
              (SharedMode.publish_not_mem_step mode now hknown)
          refine ⟨.shared (mode.step now known).1, _, ?_, hcarried.2⟩
          simp only [stepMode, hevent]
          exact Prod.ext hcarried.1 rfl

theorem resume?_eq_some_iff {publication after : Publication}
    {now : Instant} :
    publication.resume? now = some after ↔
      ∃ wakeUp, publication.pause = some wakeUp ∧ wakeUp ≤ now ∧
        after = { publication with pause := none } := by
  unfold Publication.resume?
  cases publication.pause with
  | none => simp
  | some wakeUp =>
      by_cases hdue : wakeUp ≤ now
      · simp [hdue, eq_comm]
      · simp [hdue]

/-- The calls that start when pauses end. -/
theorem callsOf_resume (supervisor : Supervisor) (now : Instant)
    (id : PublicationId) :
    callsOf id ((supervisor.resume now).2.map (now, ·)) =
      supervisor.publications.filterMap fun entry =>
        if entry.1 = id then
          (entry.2.resume? now).map fun _ => (now, entry.2.record)
        else none := by
  rw [callsOf_map]
  unfold Supervisor.resume
  rw [List.filterMap_filterMap, List.filterMap_filterMap]
  apply List.filterMap_congr
  intro entry _
  cases hresume : entry.2.resume? now with
  | none => simp
  | some after =>
      obtain ⟨wakeUp, _, _, rfl⟩ := resume?_eq_some_iff.mp hresume
      simp [Effect.call?]

theorem callsOf_resume_of_mem {supervisor : Supervisor}
    (hnodup : (supervisor.publications.map Prod.fst).Nodup)
    (now : Instant) {id : PublicationId} {publication : Publication}
    (hheld : (id, publication) ∈ supervisor.publications) :
    callsOf id ((supervisor.resume now).2.map (now, ·)) =
      ((publication.resume? now).map
        fun _ => (now, publication.record)).toList := by
  rw [callsOf_resume]
  exact filterMap_ite_key_eq hnodup hheld fun publication =>
    (publication.resume? now).map fun _ => (now, publication.record)

theorem callsOf_resume_of_forall_notMem {supervisor : Supervisor}
    (now : Instant) {id : PublicationId}
    (habsent :
      ∀ publication, (id, publication) ∉ supervisor.publications) :
    callsOf id ((supervisor.resume now).2.map (now, ·)) = [] := by
  rw [callsOf_resume, List.filterMap_eq_nil_iff]
  intro entry hentry
  apply if_neg
  rintro rfl
  exact habsent entry.2 hentry

/-! ## The ledger -/

/-- What the history tells about a publication that is not over. -/
structure Retrying (name : DnsName) (events : List (Instant × Event))
    (effects : List (Instant × Effect)) (id : PublicationId)
    (publication : Publication) : Prop where
  mapped : ∃ mapped, (mappings events)[id]? = some mapped ∧
    publication.record = ⟨name, mapped⟩
  unsuccessful : ¬ Succeeded id events
  left : 1 ≤ publication.callsLeft
  counted : (callsOf id effects).length + publication.callsLeft =
    if publication.pause = none then 4 else 3
  failed : ∀ wakeUp, publication.pause = some wakeUp →
    FailedBy id events (wakeUp - Publication.supervisedPause)

/-- What the history tells about a supervisor. -/
structure Ledger (name : DnsName) (events : List (Instant × Event))
    (effects : List (Instant × Effect)) (supervisor : Supervisor) :
    Prop where
  name_eq : supervisor.name = name
  started_eq : supervisor.started = (mappings events).length
  nodup : (supervisor.publications.map Prod.fst).Nodup
  held : ∀ entry ∈ supervisor.publications,
    Retrying name events effects entry.1 entry.2
  finished : ∀ id < supervisor.started,
    (∀ publication, (id, publication) ∉ supervisor.publications) →
      Succeeded id events ∨ (callsOf id effects).length = 3
  bounded : ∀ id, (callsOf id effects).length ≤ 3
  answered : ∀ now id outcome, (now, Event.answered id outcome) ∈ events →
    id < supervisor.started
  called : ∀ id, callsOf id effects ≠ [] → id < supervisor.started

theorem ledger_start (supervisor : Supervisor)
    (hpublications : supervisor.publications = [])
    (hstarted : supervisor.started = 0) :
    Ledger supervisor.name [] [] supervisor where
  name_eq := rfl
  started_eq := hstarted
  nodup := by simp [hpublications]
  held := by simp [hpublications]
  finished := by simp [hstarted]
  bounded := by simp [callsOf]
  answered := by simp
  called := by simp [callsOf]

namespace Retrying

variable {name : DnsName} {events : List (Instant × Event)}
  {effects : List (Instant × Effect)} {id : PublicationId}
  {publication : Publication}

theorem length_callsOf_le
    (hretrying : Retrying name events effects id publication) :
    (callsOf id effects).length ≤ 3 := by
  have hleft := hretrying.left
  have hcounted := hretrying.counted
  split at hcounted <;> omega

theorem lt_length_mappings
    (hretrying : Retrying name events effects id publication) :
    id < (mappings events).length := by
  obtain ⟨mapped, hmapped, _⟩ := hretrying.mapped
  exact (List.getElem?_eq_some_iff.mp hmapped).1

/-- What others do does not matter to a publication. -/
theorem append (hretrying : Retrying name events effects id publication)
    {later : List (Instant × Event)} (hlater : ¬ Succeeded id later)
    {made : List (Instant × Effect)} (hmade : callsOf id made = []) :
    Retrying name (events ++ later) (effects ++ made) id publication where
  mapped := by
    obtain ⟨mapped, hmapped, hrecord⟩ := hretrying.mapped
    refine ⟨mapped, ?_, hrecord⟩
    rw [mappings_append,
      List.getElem?_append_left hretrying.lt_length_mappings]
    exact hmapped
  unsuccessful := by
    rintro ⟨now, hmem⟩
    rcases List.mem_append.mp hmem with hold | hnew
    · exact hretrying.unsuccessful ⟨now, hold⟩
    · exact hlater ⟨now, hnew⟩
  left := hretrying.left
  counted := by
    rw [callsOf_append, hmade, List.append_nil]
    exact hretrying.counted
  failed := by
    intro wakeUp hpause
    exact (hretrying.failed wakeUp hpause).append later

end Retrying

theorem Succeeded.singleton_iff {id : PublicationId} {now : Instant}
    {event : Event} :
    Succeeded id [(now, event)] ↔ event = .answered id (.ok ()) := by
  constructor
  · rintro ⟨instant, hmem⟩
    simp only [List.mem_singleton, Prod.mk.injEq] at hmem
    exact hmem.2.symm
  · rintro rfl
    exact ⟨now, List.mem_singleton.mpr rfl⟩

namespace Ledger

variable {name : DnsName} {events : List (Instant × Event)}
  {effects : List (Instant × Effect)} {supervisor : Supervisor}

theorem lt_started (hledger : Ledger name events effects supervisor)
    {entry : PublicationId × Publication}
    (hentry : entry ∈ supervisor.publications) :
    entry.1 < supervisor.started := by
  rw [hledger.started_eq]
  exact (hledger.held entry hentry).lt_length_mappings

/-- Nothing that concerns a publication happens. -/
theorem quiet (hledger : Ledger name events effects supervisor)
    {now : Instant} {event : Event} (hmapping : event.mapping? = none)
    (hanswer : ∀ id outcome, event ≠ .answered id outcome)
    {made : List Effect} (hmade : made.filterMap Effect.call? = [])
    (mode : Mode) :
    Ledger name (events ++ [(now, event)]) (effects ++ made.map (now, ·))
      { supervisor with mode := mode } := by
  have hcalls := fun id => callsOf_map_eq_nil hmade id now
  constructor
  case name_eq =>
    exact hledger.name_eq
  case started_eq =>
    simp [hledger.started_eq, mappings, hmapping]
  case nodup =>
    exact hledger.nodup
  case held =>
    intro entry hentry
    have hlater : ¬ Succeeded entry.1 [(now, event)] := by
      rw [Succeeded.singleton_iff]
      exact hanswer _ _
    exact (hledger.held entry hentry).append hlater (hcalls _)
  case finished =>
    intro id hid habsent
    rw [callsOf_append, hcalls, List.append_nil]
    rcases hledger.finished id hid habsent with hsucceeded | hthree
    · exact Or.inl (hsucceeded.append _)
    · exact Or.inr hthree
  case bounded =>
    intro id
    rw [callsOf_append, hcalls, List.append_nil]
    exact hledger.bounded id
  case answered =>
    intro instant id outcome hmem
    rcases List.mem_append.mp hmem with hold | hnew
    · exact hledger.answered instant id outcome hold
    · simp only [List.mem_singleton, Prod.mk.injEq] at hnew
      exact absurd hnew.2.symm (hanswer id outcome)
  case called =>
    intro id hid
    rw [callsOf_append, hcalls, List.append_nil] at hid
    exact hledger.called id hid

/-- A mapping is found, and its publication makes the first call. -/
theorem published (hledger : Ledger name events effects supervisor)
    {now : Instant} {mapped : Endpoint} {made : List Effect}
    (hmade : made.filterMap Effect.call? =
      [(supervisor.started, ⟨supervisor.name, mapped⟩)])
    (mode : Mode) :
    Ledger name (events ++ [(now, .lookedUp (.ok mapped))])
      (effects ++ made.map (now, ·))
      { (supervisor.publish mapped).1 with mode := mode } := by
  have hcalls (id : PublicationId) :
      callsOf id (made.map (now, ·)) =
        if supervisor.started = id then
          [(now, ⟨supervisor.name, mapped⟩)]
        else [] := by
    rw [callsOf_map, hmade]
    by_cases hid : supervisor.started = id
    · simp [hid]
    · simp [hid]
  have hunused : callsOf supervisor.started effects = [] := by
    by_contra hcalled
    exact absurd (hledger.called _ hcalled) (Nat.lt_irrefl _)
  have hquiet (id : PublicationId) :
      ¬ Succeeded id [(now, .lookedUp (.ok mapped))] := by
    rw [Succeeded.singleton_iff]
    simp
  rw [publish_eq]
  constructor
  case name_eq =>
    exact hledger.name_eq
  case started_eq =>
    simp [hledger.started_eq, mappings, Event.mapping?]
  case nodup =>
    rw [List.map_append, List.nodup_append]
    refine ⟨hledger.nodup, by simp, ?_⟩
    intro id hid other hother
    obtain ⟨entry, hentry, rfl⟩ := List.mem_map.mp hid
    have hlt := hledger.lt_started hentry
    rw [List.map_singleton, List.mem_singleton] at hother
    rw [hother]
    exact Nat.ne_of_lt hlt
  case held =>
    intro entry hentry
    rcases List.mem_append.mp hentry with hold | hnew
    · have hlt := hledger.lt_started hold
      apply (hledger.held entry hold).append (hquiet _)
      rw [hcalls, if_neg (Nat.ne_of_gt hlt)]
    · rw [List.mem_singleton] at hnew
      subst hnew
      exact
        { mapped := ⟨mapped, by
            simp [hledger.started_eq, mappings, Event.mapping?,
              opening, hledger.name_eq]⟩
          unsuccessful := by
            rintro ⟨instant, hmem⟩
            rcases List.mem_append.mp hmem with hold | hnew
            · exact absurd (hledger.answered _ _ _ hold) (Nat.lt_irrefl _)
            · exact hquiet _ ⟨instant, hnew⟩
          left := by simp [opening]
          counted := by simp [hunused, hcalls, opening]
          failed := by simp [opening] }
  case finished =>
    intro id hid habsent
    have hne : supervisor.started ≠ id := by
      rintro rfl
      exact habsent _ (List.mem_append_right _ List.mem_cons_self)
    have hlt : id < supervisor.started :=
      Nat.lt_of_le_of_ne (Nat.le_of_lt_succ hid) hne.symm
    have hold := hledger.finished id hlt fun other hmem =>
      habsent other (List.mem_append_left _ hmem)
    rw [callsOf_append, hcalls, if_neg hne, List.append_nil]
    exact hold.imp_left fun hsucceeded => hsucceeded.append _
  case bounded =>
    intro id
    rw [callsOf_append, hcalls]
    by_cases hid : supervisor.started = id
    · subst hid
      simp [hunused]
    · rw [if_neg hid, List.append_nil]
      exact hledger.bounded id
  case answered =>
    intro instant id outcome hmem
    rcases List.mem_append.mp hmem with hold | hnew
    · exact Nat.lt_succ_of_lt (hledger.answered instant id outcome hold)
    · simp at hnew
  case called =>
    intro id hid
    rw [callsOf_append, hcalls] at hid
    by_cases hstarted : supervisor.started = id
    · rw [← hstarted]
      exact Nat.lt_succ_self _
    · rw [if_neg hstarted, List.append_nil] at hid
      exact Nat.lt_succ_of_lt (hledger.called id hid)

/-- The call of a publication is answered, and what remains of the publication
takes its place. -/
theorem settled (hledger : Ledger name events effects supervisor)
    (now : Instant) {id : PublicationId} (outcome : Except String Unit)
    {publication : Publication}
    (hheld : (id, publication) ∈ supervisor.publications)
    (made : List Effect) (hmade : made.filterMap Effect.call? = [])
    (remainder : Option Publication)
    (hremainder : ∀ rest, remainder = some rest →
      Retrying name (events ++ [(now, .answered id outcome)])
        (effects ++ made.map (now, ·)) id rest)
    (hover : remainder = none →
      outcome = .ok () ∨ (callsOf id effects).length = 3) :
    Ledger name (events ++ [(now, .answered id outcome)])
      (effects ++ made.map (now, ·))
      { supervisor with
        publications :=
          (supervisor.publications.filter fun entry => entry.1 ≠ id) ++
            (remainder.map (id, ·)).toList } := by
  have hcalls := fun id => callsOf_map_eq_nil hmade id now
  constructor
  case name_eq =>
    exact hledger.name_eq
  case started_eq =>
    simp [hledger.started_eq, mappings, Event.mapping?]
  case nodup =>
    rw [List.map_append, List.nodup_append]
    refine ⟨?_, by cases remainder <;> simp, ?_⟩
    · exact hledger.nodup.sublist (List.filter_sublist.map Prod.fst)
    · intro left hleft right hright
      obtain ⟨entry, hentry, rfl⟩ := List.mem_map.mp hleft
      have hother := (List.mem_filter.mp hentry).2
      cases remainder with
      | none => simp at hright
      | some rest =>
          simp only [Option.map_some, Option.toList_some, List.map_singleton,
            List.mem_singleton] at hright
          rw [hright]
          simpa using hother
  case held =>
    intro entry hentry
    rcases List.mem_append.mp hentry with hold | hnew
    · obtain ⟨hmem, hother⟩ := List.mem_filter.mp hold
      have hlater : ¬ Succeeded entry.1 [(now, .answered id outcome)] := by
        rw [Succeeded.singleton_iff]
        rintro hevent
        cases hevent
        simp at hother
      exact (hledger.held entry hmem).append hlater (hcalls _)
    · cases hrest : remainder with
      | none => simp [hrest] at hnew
      | some rest =>
          simp only [hrest, Option.map_some, Option.toList_some,
            List.mem_singleton] at hnew
          rw [hnew]
          exact hremainder rest hrest
  case finished =>
    intro other hother habsent
    rw [callsOf_append, hcalls, List.append_nil]
    by_cases hsame : other = id
    · subst hsame
      cases hrest : remainder with
      | none =>
          rcases hover hrest with hok | hthree
          · left
            exact ⟨now, by simp [hok]⟩
          · exact Or.inr hthree
      | some rest =>
          exact absurd (List.mem_append_right _ (by simp [hrest]))
            (habsent rest)
    · have hold := hledger.finished other hother fun publication hmem =>
        habsent publication (List.mem_append_left _
          (List.mem_filter.mpr ⟨hmem, by simpa using hsame⟩))
      exact hold.imp_left fun hsucceeded => hsucceeded.append _
  case bounded =>
    intro other
    rw [callsOf_append, hcalls, List.append_nil]
    exact hledger.bounded other
  case answered =>
    intro instant other result hmem
    rcases List.mem_append.mp hmem with hold | hnew
    · exact hledger.answered instant other result hold
    · simp only [List.mem_singleton, Prod.mk.injEq, Event.answered.injEq]
        at hnew
      rw [hnew.2.1]
      exact hledger.lt_started hheld
  case called =>
    intro other hcalled
    rw [callsOf_append, hcalls, List.append_nil] at hcalled
    exact hledger.called other hcalled

theorem answer (hledger : Ledger name events effects supervisor)
    {now : Instant} {id : PublicationId} {outcome : Except String Unit}
    (hawaits : supervisor.awaits (.answered id outcome) = true) :
    Ledger name (events ++ [(now, .answered id outcome)])
      (effects ++ (supervisor.answer now id outcome).2.map (now, ·))
      (supervisor.answer now id outcome).1 := by
  cases hlookup : supervisor.publications.lookup id with
  | none => simp [awaits, hlookup] at hawaits
  | some publication =>
      have hpause : publication.pause = none := by
        simpa [awaits, hlookup] using hawaits
      have hheld : (id, publication) ∈ supervisor.publications :=
        (lookup_eq_some_iff_mem hledger.nodup _ _).mp hlookup
      have hretrying : Retrying name events effects id publication :=
        hledger.held _ hheld
      have hcounted := hretrying.counted
      rw [if_pos hpause] at hcounted
      cases outcome with
      | ok =>
          have hsettled :=
            hledger.settled now (.ok ()) hheld [.log updated] rfl none
              (by simp) (by simp)
          simpa [Supervisor.answer, hlookup, Publication.answered]
            using hsettled
      | error reason =>
          by_cases hlast : publication.callsLeft ≤ 1
          · have hthree : (callsOf id effects).length = 3 := by
              have hleft := hretrying.left
              omega
            have hsettled :=
              hledger.settled now (.error reason) hheld
                [.log (callFailed reason), .log gaveUp] rfl none (by simp)
                (fun _ => Or.inr hthree)
            simpa [Supervisor.answer, hlookup, Publication.answered, hlast]
              using hsettled
          · have hquiet :
                ¬ Succeeded id [(now, .answered id (.error reason))] := by
              rw [Succeeded.singleton_iff]
              simp
            have hmade :
                callsOf id ([.log (callFailed reason)].map (now, ·)) = [] :=
              callsOf_map_eq_nil rfl id now
            have hkept := hretrying.append hquiet hmade
            have hthree :
                (callsOf id effects).length + (publication.callsLeft - 1) =
                  3 := by
              omega
            have hpaused :
                Retrying name
                  (events ++ [(now, .answered id (.error reason))])
                  (effects ++ [.log (callFailed reason)].map (now, ·)) id
                  { publication with
                    callsLeft := publication.callsLeft - 1
                    pause := some (now + Publication.supervisedPause) } :=
              { mapped := hkept.mapped
                unsuccessful := hkept.unsuccessful
                left := by
                  simp only
                  omega
                counted := by
                  rw [callsOf_append, hmade, List.append_nil,
                    if_neg (by simp)]
                  exact hthree
                failed := by
                  intro wakeUp hwakeUp
                  cases hwakeUp
                  refine ⟨now, reason, by simp, ?_⟩
                  exact Int.le_of_eq (Int.add_sub_cancel now _).symm }
            have hsettled :=
              hledger.settled now (.error reason) hheld
                [.log (callFailed reason)] rfl (some _)
                (by
                  rintro rest hrest
                  cases hrest
                  exact hpaused)
                (by simp)
            simpa [Supervisor.answer, hlookup, Publication.answered, hlast]
              using hsettled

theorem resume (hledger : Ledger name events effects supervisor)
    (now : Instant) :
    Ledger name events
      (effects ++ (supervisor.resume now).2.map (now, ·))
      (supervisor.resume now).1 := by
  have hids :
      (supervisor.resume now).1.publications.map Prod.fst =
        supervisor.publications.map Prod.fst := by
    simp [Supervisor.resume, Function.comp_def]
  have hstays {id : PublicationId}
      (habsent : ∀ publication,
        (id, publication) ∉ (supervisor.resume now).1.publications) :
      ∀ publication, (id, publication) ∉ supervisor.publications := by
    intro publication hmem
    have hid : id ∈ supervisor.publications.map Prod.fst :=
      List.mem_map.mpr ⟨_, hmem, rfl⟩
    rw [← hids] at hid
    obtain ⟨entry, hentry, rfl⟩ := List.mem_map.mp hid
    exact habsent entry.2 hentry
  have hheld (id : PublicationId) (publication : Publication)
      (hmem :
        (id, publication) ∈ (supervisor.resume now).1.publications) :
      Retrying name events
        (effects ++ (supervisor.resume now).2.map (now, ·)) id
        publication := by
    obtain ⟨⟨other, before⟩, hbefore, hentry⟩ := List.mem_map.mp hmem
    cases hentry
    have hretrying : Retrying name events effects other before :=
      hledger.held _ hbefore
    have hcalls := callsOf_resume_of_mem hledger.nodup now hbefore
    cases hresume : before.resume? now with
    | none =>
        rw [hresume] at hcalls
        have hnothing : ¬ Succeeded other [] := by simp [Succeeded]
        have hkept := hretrying.append hnothing hcalls
        rw [List.append_nil] at hkept
        exact hkept
    | some after =>
        rw [hresume] at hcalls
        obtain ⟨wakeUp, hpause, _, rfl⟩ := resume?_eq_some_iff.mp hresume
        exact
          { mapped := hretrying.mapped
            unsuccessful := hretrying.unsuccessful
            left := hretrying.left
            counted := by
              have hcounted := hretrying.counted
              rw [if_neg (by simp [hpause])] at hcounted
              rw [callsOf_append, hcalls, List.length_append]
              simp only [Option.map_some, Option.toList_some,
                List.length_singleton, Option.getD_some, if_true]
              omega
            failed := by simp }
  constructor
  case name_eq =>
    exact hledger.name_eq
  case started_eq =>
    exact hledger.started_eq
  case nodup =>
    rw [hids]
    exact hledger.nodup
  case held =>
    intro entry hentry
    exact hheld entry.1 entry.2 hentry
  case finished =>
    intro id hid habsent
    rw [callsOf_append, callsOf_resume_of_forall_notMem now (hstays habsent),
      List.append_nil]
    exact hledger.finished id hid (hstays habsent)
  case bounded =>
    intro id
    by_cases hid : ∃ publication,
        (id, publication) ∈ (supervisor.resume now).1.publications
    · obtain ⟨publication, hmem⟩ := hid
      exact (hheld id publication hmem).length_callsOf_le
    · rw [callsOf_append, callsOf_resume_of_forall_notMem now
        (hstays (not_exists.mp hid)), List.append_nil]
      exact hledger.bounded id
  case answered =>
    exact hledger.answered
  case called =>
    intro id hcalled
    by_cases hid : ∃ publication,
        (id, publication) ∈ (supervisor.resume now).1.publications
    · obtain ⟨publication, hmem⟩ := hid
      have hlt := (hheld id publication hmem).lt_length_mappings
      rw [← hledger.started_eq] at hlt
      exact hlt
    · rw [callsOf_append, callsOf_resume_of_forall_notMem now
        (hstays (not_exists.mp hid)), List.append_nil] at hcalled
      exact hledger.called id hcalled

theorem step (hledger : Ledger name events effects supervisor)
    (now : Instant) {event : Event}
    (hawaits : supervisor.awaits event = true) :
    Ledger name (events ++ [(now, event)])
      (effects ++ (supervisor.step now event).2.map (now, ·))
      (supervisor.step now event).1 := by
  have hquiet (hmapping : event.mapping? = none)
      (hanswer : ∀ id outcome, event ≠ .answered id outcome) :
      Ledger name (events ++ [(now, event)])
        (effects ++ (supervisor.stepMode now event).2.map (now, ·))
        (supervisor.stepMode now event).1 := by
    obtain ⟨mode, made, hmode, hmade⟩ :=
      stepMode_of_mapping?_eq_none supervisor now hmapping
    rw [hmode]
    exact hledger.quiet hmapping hanswer hmade mode
  cases event with
  | lookedUp outcome =>
      cases outcome with
      | error error => exact hquiet rfl (by simp)
      | ok mapped =>
          obtain ⟨mode, made, hmode, hmade⟩ :=
            stepMode_lookedUp_ok hawaits now
          simp only [Supervisor.step, hmode]
          exact hledger.published hmade mode
  | engineEnded outcome => exact hquiet rfl (by simp)
  | checked liveness => exact hquiet rfl (by simp)
  | answered id outcome => exact hledger.answer hawaits
  | tick =>
      have hresumed := (hquiet rfl (by simp)).resume now
      rw [List.append_assoc, ← List.map_append] at hresumed
      exact hresumed

theorem run (hledger : Ledger name events effects supervisor)
    {since : Instant} {later : List (Instant × Event)}
    (hcausal : supervisor.Causal since later) :
    Ledger name (events ++ later) (effects ++ (supervisor.run later).2)
      (supervisor.run later).1 := by
  induction later generalizing supervisor since events effects with
  | nil =>
      simp only [Supervisor.run, List.append_nil]
      exact hledger
  | cons entry later ih =>
      obtain ⟨now, event⟩ := entry
      obtain ⟨_, hawaits, hlater⟩ := hcausal
      have hrest := ih (hledger.step now hawaits) hlater
      rw [List.append_assoc, List.singleton_append, List.append_assoc]
        at hrest
      exact hrest

end Ledger

theorem ledger_startForward (name : DnsName) :
    Ledger name [] [] (startForward name).1 :=
  ledger_start (startForward name).1 rfl rfl

theorem ledger_startShared (name : DnsName) :
    Ledger name [] [] (startShared name).1 :=
  ledger_start (startShared name).1 rfl rfl

end Supervisor

end Pinhole
