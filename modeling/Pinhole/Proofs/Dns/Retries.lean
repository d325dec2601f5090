import Mathlib.Data.ENat.Lattice
import Mathlib.Data.Nat.Find
import Pinhole.Dns.Publication

/-!
# The course of a publication

A publication whose calls are answered at once makes one call after another, a
pause apart, up to the first that succeeds or the last that is allowed.  It is
over with its last call.  The course is what becomes of the publication when it
is answered and resumed step by step, so all of its calls carry the record that
it was started with.
-/

namespace Pinhole

namespace Publication

/-! ## Instants that are a pause apart -/

def schedule (start : Instant) (pause : Duration) (count : Nat) :
    List Instant :=
  (List.range count).map fun earlier => start + (earlier * pause : Nat)

theorem add_pauses (start : Instant) (pause : Duration) (count : Nat) :
    start + pause + (count * pause : Nat) =
      start + ((count + 1) * pause : Nat) := by
  rw [Nat.succ_mul, Nat.add_comm, Int.natCast_add, Int.add_assoc]

@[simp] theorem length_schedule (start : Instant) (pause : Duration)
    (count : Nat) : (schedule start pause count).length = count := by
  simp [schedule]

theorem schedule_one (start : Instant) (pause : Duration) :
    schedule start pause 1 = [start] := by
  simp [schedule]

theorem schedule_succ (start : Instant) (pause : Duration) (count : Nat) :
    schedule start pause (count + 1) =
      start :: schedule (start + pause) pause count := by
  rw [schedule, List.range_succ_eq_map, List.map_cons, List.map_map, schedule]
  congr 1
  · simp
  · apply List.map_congr_left
    intro earlier _
    exact (add_pauses start pause earlier).symm

theorem getLast?_schedule (start : Instant) (pause : Duration) (count : Nat) :
    (schedule start pause (count + 1)).getLast? =
      some (start + (count * pause : Nat)) := by
  simp [schedule, List.range_succ]

/-! ## One call after another -/

section Loop

variable {pause : Duration} {success : Nat → Bool} {call left : Nat}
  {now : Instant}

theorem course_of_retry (hfails : success call = false) (hleft : left ≠ 0) :
    course pause success call (left + 1) now =
      { course pause success (call + 1) left (now + pause) with
        calls := now ::
          (course pause success (call + 1) left (now + pause)).calls } := by
  simp [course, hfails, hleft]

theorem fails_later {count : Nat}
    (hfails : ∀ further < count + 1, success (call + further) = false) :
    ∀ further < count, success (call + 1 + further) = false := by
  intro further hlt
  rw [Nat.add_assoc, Nat.add_comm 1]
  exact hfails (further + 1) (Nat.succ_lt_succ hlt)

theorem course_of_failures
    (hfails : ∀ further < left, success (call + further) = false) :
    course pause success call left now =
      ⟨schedule now pause left, false, now + ((left - 1) * pause : Nat)⟩ := by
  induction left generalizing call now with
  | zero => simp [course, schedule]
  | succ left ih =>
      have hfirst : success call = false := hfails 0 (Nat.zero_lt_succ left)
      cases left with
      | zero => simp [course, hfirst, schedule_one]
      | succ left =>
          have hrest : course pause success (call + 1) (left + 1)
              (now + pause) = _ := ih (fails_later hfails)
          rw [course_of_retry hfirst (Nat.succ_ne_zero left), hrest,
            schedule_succ now, Nat.add_sub_cancel, Nat.add_sub_cancel,
            add_pauses]

theorem course_of_success {first : Nat} (hlt : first < left)
    (hfails : ∀ further < first, success (call + further) = false)
    (hsucceeds : success (call + first) = true) :
    course pause success call left now =
      ⟨schedule now pause (first + 1), true, now + (first * pause : Nat)⟩ := by
  obtain ⟨others, rfl⟩ : ∃ others, left = others + 1 :=
    Nat.exists_eq_add_one.mpr (Nat.zero_lt_of_lt hlt)
  induction first generalizing call others now with
  | zero =>
      rw [Nat.add_zero] at hsucceeds
      simp [course, hsucceeds, schedule_one]
  | succ first ih =>
      have hfirst : success call = false := hfails 0 (Nat.zero_lt_succ first)
      rw [Nat.succ_lt_succ_iff] at hlt
      obtain ⟨others, rfl⟩ : ∃ fewer, others = fewer + 1 :=
        Nat.exists_eq_add_one.mpr (Nat.zero_lt_of_lt hlt)
      have hends : success (call + 1 + first) = true := by
        rwa [Nat.add_assoc, Nat.add_comm 1]
      have hrest : course pause success (call + 1) (others + 1)
          (now + pause) = _ := ih (fails_later hfails) hends others hlt
      rw [course_of_retry hfirst (Nat.succ_ne_zero others), hrest,
        schedule_succ now, add_pauses]

end Loop

/-! ## Answered and resumed -/

/-- What becomes of a publication from an instant on, whose calls are answered
at once and which is resumed as soon as it can be: its calls, whether it
succeeds, and when it is over. -/
inductive Unfolds (pause : Duration) (success : Nat → Bool) :
    (call : Nat) → (now : Instant) → Progress →
      List (Instant × DnsRecord) → Bool → Instant → Prop
  | published {call : Nat} {now : Instant} :
      Unfolds pause success call now .published [] true now
  | gaveUp {call : Nat} {now : Instant} :
      Unfolds pause success call now .gaveUp [] false now
  | calling {call : Nat} {now finish : Instant} {publication : Publication}
      {calls : List (Instant × DnsRecord)} {published : Bool}
      (hpause : publication.pause = none)
      (hlater : Unfolds pause success (call + 1) now
        (publication.answered now pause (success call)) calls published
        finish) :
      Unfolds pause success call now (.under publication)
        ((now, publication.record) :: calls) published finish
  | pausing {call : Nat} {now wakeUp finish : Instant}
      {publication next : Publication} {calls : List (Instant × DnsRecord)}
      {published : Bool} (hpause : publication.pause = some wakeUp)
      (hresume : publication.resume? wakeUp = some next)
      (hlater : Unfolds pause success call wakeUp (.under next) calls
        published finish) :
      Unfolds pause success call now (.under publication) calls published
        finish

section Unfolding

variable {pause : Duration} {success : Nat → Bool} {call : Nat}
  {now finish : Instant} {calls : List (Instant × DnsRecord)}
  {published : Bool} {record : DnsRecord} {left : Nat}

theorem unfolds_published_iff :
    Unfolds pause success call now .published calls published finish ↔
      calls = [] ∧ published = true ∧ finish = now := by
  constructor
  · rintro ⟨⟩
    simp
  · rintro ⟨rfl, rfl, rfl⟩
    exact .published

theorem unfolds_gaveUp_iff :
    Unfolds pause success call now .gaveUp calls published finish ↔
      calls = [] ∧ published = false ∧ finish = now := by
  constructor
  · rintro ⟨⟩
    simp
  · rintro ⟨rfl, rfl, rfl⟩
    exact .gaveUp

theorem unfolds_calling_iff :
    Unfolds pause success call now (.under ⟨record, left, none⟩) calls
        published finish ↔
      ∃ later, calls = (now, record) :: later ∧
        Unfolds pause success (call + 1) now
          (answered ⟨record, left, none⟩ now pause (success call)) later
          published finish := by
  constructor
  · intro hunfolds
    cases hunfolds with
    | calling hpause hlater => exact ⟨_, rfl, hlater⟩
    | pausing hpause hresume hlater => simp at hpause
  · rintro ⟨later, rfl, hlater⟩
    exact .calling rfl hlater

theorem unfolds_pausing_iff {wakeUp : Instant} :
    Unfolds pause success call now (.under ⟨record, left, some wakeUp⟩) calls
        published finish ↔
      Unfolds pause success call wakeUp (.under ⟨record, left, none⟩) calls
        published finish := by
  have hresumed : resume? ⟨record, left, some wakeUp⟩ wakeUp =
      some ⟨record, left, none⟩ := by
    simp [resume?]
  constructor
  · intro hunfolds
    cases hunfolds with
    | calling hpause hlater => simp at hpause
    | pausing hpause hresume hlater =>
        cases hpause
        rw [hresumed, Option.some.injEq] at hresume
        exact hresume ▸ hlater
  · exact .pausing rfl hresumed

/-- The calls of a publication, step by step, are those of its course. -/
theorem unfolds_under_iff :
    Unfolds pause success call now (.under ⟨record, left + 1, none⟩) calls
        published finish ↔
      calls = (course pause success call (left + 1) now).calls.map
          (·, record) ∧
        published = (course pause success call (left + 1) now).published ∧
        finish = (course pause success call (left + 1) now).finish := by
  induction left generalizing call now calls with
  | zero =>
      rw [unfolds_calling_iff]
      cases hcall : success call with
      | true => simp [answered, unfolds_published_iff, course, hcall]
      | false => simp [answered, unfolds_gaveUp_iff, course, hcall]
  | succ left ih =>
      rw [unfolds_calling_iff]
      cases hcall : success call with
      | true => simp [answered, unfolds_published_iff, course, hcall]
      | false =>
          rw [course_of_retry hcall (Nat.succ_ne_zero left)]
          simp [answered, unfolds_pausing_iff, ih]

end Unfolding

/-! ## The whole publication -/

/-- The number of the first call that succeeds, counted from one. -/
noncomputable def firstSuccess (success : Nat → Bool) : ℕ∞ :=
  open Classical in
  if hsome : ∃ call, success call = true then (Nat.find hsome + 1 : Nat)
  else ⊤

theorem firstSuccess_eq {success : Nat → Bool} {first : Nat}
    (hsucceeds : success first = true)
    (hfails : ∀ earlier < first, success earlier = false) :
    firstSuccess success = (first + 1 : Nat) := by
  have hsome : ∃ call, success call = true := ⟨first, hsucceeds⟩
  have hfind : Nat.find hsome = first := by
    rw [Nat.find_eq_iff]
    exact ⟨hsucceeds, by simpa using hfails⟩
  simp [firstSuccess, hsome, hfind]

theorem lt_firstSuccess {success : Nat → Bool} {count : Nat}
    (hfails : ∀ call < count, success call = false) :
    (count : ℕ∞) < firstSuccess success := by
  by_cases hsome : ∃ call, success call = true
  case pos =>
    have hle : count ≤ Nat.find hsome := by
      rw [Nat.le_find_iff]
      simpa using hfails
    simp only [firstSuccess, hsome, dite_true, Nat.cast_lt]
    omega
  case neg => simp [firstSuccess, hsome]

theorem courseOf_cases (attempts : UInt32) (pause : Duration)
    (success : Nat → Bool) :
    (∃ first < attempts.toNat, firstSuccess success = (first + 1 : Nat) ∧
      courseOf attempts pause success =
        ⟨schedule 0 pause (first + 1), true, 0 + (first * pause : Nat)⟩) ∨
    ((attempts.toNat : ℕ∞) < firstSuccess success ∧
      courseOf attempts pause success =
        ⟨schedule 0 pause attempts.toNat, false,
          0 + ((attempts.toNat - 1) * pause : Nat)⟩) := by
  by_cases hsome : ∃ call, call < attempts.toNat ∧ success call = true
  case pos =>
    obtain ⟨hlt, hsucceeds⟩ := Nat.find_spec hsome
    have hfails : ∀ earlier < Nat.find hsome, success earlier = false := by
      intro earlier hless
      have hnot := Nat.find_min hsome hless
      simpa [hless.trans hlt] using hnot
    refine Or.inl ⟨Nat.find hsome, hlt, firstSuccess_eq hsucceeds hfails, ?_⟩
    exact course_of_success hlt (by simpa using hfails)
      (by simpa using hsucceeds)
  case neg =>
    have hfails : ∀ call < attempts.toNat, success call = false := by
      simpa using hsome
    exact Or.inr ⟨lt_firstSuccess hfails,
      course_of_failures (by simpa using hfails)⟩

theorem unfolds_start_iff {record : DnsRecord} {attempts : UInt32}
    {pause : Duration} {success : Nat → Bool}
    {calls : List (Instant × DnsRecord)} {published : Bool}
    {finish : Instant} :
    Unfolds pause success 0 0 (start record attempts) calls published finish ↔
      calls = (courseOf attempts pause success).calls.map (·, record) ∧
        published = (courseOf attempts pause success).published ∧
        finish = (courseOf attempts pause success).finish := by
  by_cases hnone : attempts = 0
  case pos =>
    subst hnone
    simp [start, unfolds_gaveUp_iff, courseOf, course]
  case neg =>
    have hpositive : attempts.toNat ≠ 0 := by
      simpa [← UInt32.toNat_inj] using hnone
    obtain ⟨others, hothers⟩ := Nat.exists_eq_succ_of_ne_zero hpositive
    rw [start, if_neg hnone, courseOf, hothers]
    exact unfolds_under_iff

/-- A course of calls up to the first that succeeds or the last that is
allowed. -/
structure Retries (record : DnsRecord) (attempts : UInt32) (pause : Duration)
    (success : Nat → Bool) (course : Course) : Prop where
  length_calls : (course.calls.length : ℕ∞) =
    min (firstSuccess success) (attempts.toNat : ℕ∞)
  calls : course.calls = schedule 0 pause course.calls.length
  published_iff : course.published = true ↔
    firstSuccess success ≤ attempts.toNat
  finish : course.finish = course.calls.getLast?.getD 0
  unfolds_iff : ∀ calls published finish,
    Unfolds pause success 0 0 (start record attempts) calls published finish ↔
      calls = course.calls.map (·, record) ∧
        published = course.published ∧ finish = course.finish

/-- A publication calls its provider until a call succeeds, at most as often as
is allowed, and a pause after each call that failed, always with its record.
It succeeds if an allowed call does, and is over with its last call, or at once
if none is allowed. -/
theorem courseOf_retries (record : DnsRecord) (attempts : UInt32)
    (pause : Duration) (success : Nat → Bool) :
    Retries record attempts pause success
      (courseOf attempts pause success) := by
  rcases courseOf_cases attempts pause success with
    ⟨first, hlt, hfirst, hcourse⟩ | ⟨hlt, hcourse⟩
  · have hle : ((first + 1 : Nat) : ℕ∞) ≤ attempts.toNat :=
      Nat.cast_le.mpr hlt
    refine ⟨?_, ?_, ?_, ?_, fun _ _ _ => unfolds_start_iff⟩
    · simp only [hcourse, length_schedule, hfirst, min_eq_left hle]
    · simp [hcourse]
    · simp only [hcourse, hfirst, hle]
    · simp only [hcourse, getLast?_schedule, Option.getD_some]
  · refine ⟨?_, ?_, ?_, ?_, fun _ _ _ => unfolds_start_iff⟩
    · simp only [hcourse, length_schedule, min_eq_right hlt.le]
    · simp [hcourse]
    · simp [hcourse, hlt]
    · cases hcount : attempts.toNat with
      | zero => simp [hcourse, hcount, schedule]
      | succ others =>
          simp only [hcourse, hcount, getLast?_schedule,
            Nat.add_sub_cancel, Option.getD_some]

end Publication

end Pinhole
