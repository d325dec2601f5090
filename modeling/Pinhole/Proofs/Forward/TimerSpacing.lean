import Mathlib.Data.List.Chain
import Pinhole.Forward.Periodic

/-!
# The spacing of a periodic timer

A timer that fires is, from then on, a timer that was started at that poll.  So
at any time it is one that was started when it last fired, and two firings in a
row are as the start and the first firing: at least a period apart, and by less
than the distance of two polls further apart than that.

The timer drifts, since it is set from the poll and not from when it was due.
This costs it less than the distance of two polls each time, so in any span of
so many periods, each longer by that distance, it fires as many times.
-/

namespace Pinhole

namespace Periodic

theorem poll_of_lt {timer : Periodic} {now : Instant}
    (hnow : now < timer.next) : timer.poll now = (false, timer) :=
  if_pos hnow

theorem poll_of_le {timer : Periodic} {now : Instant}
    (hnow : timer.next ≤ now) :
    timer.poll now = (true, { timer with next := now + timer.period }) :=
  if_neg (Int.not_lt.mpr hnow)

theorem fst_poll_iff {timer : Periodic} {now : Instant} :
    (timer.poll now).1 = true ↔ timer.next ≤ now := by
  by_cases hnow : now < timer.next
  · simp [poll_of_lt hnow, hnow]
  · have hdue := Int.not_lt.mp hnow
    simp [poll_of_le hdue, hdue]

theorem snd_poll_of_fires {timer : Periodic} {now : Instant}
    (hfires : (timer.poll now).1 = true) :
    (timer.poll now).2 = start timer.period now := by
  rw [poll_of_le (fst_poll_iff.mp hfires)]
  rfl

theorem snd_poll_of_waits {timer : Periodic} {now : Instant}
    (hwaits : (timer.poll now).1 = false) : (timer.poll now).2 = timer := by
  have hnow : ¬ timer.next ≤ now := by
    simp [← fst_poll_iff, hwaits]
  rw [poll_of_lt (Int.not_le.mp hnow)]

theorem lt_add_period {period : Duration} (hpositive : 0 < period)
    (now : Instant) : now < now + period :=
  Int.lt_add_of_pos_right now (Int.natCast_pos.mpr hpositive)

/-- A timer that is polled is set to an instant within one period. -/
theorem poll_next {timer : Periodic} {last now : Instant}
    (hpositive : 0 < timer.period)
    (hsoon : timer.next ≤ last + timer.period) (hlater : last ≤ now) :
    (timer.poll now).2.period = timer.period ∧
      now < (timer.poll now).2.next ∧
      (timer.poll now).2.next ≤ now + timer.period := by
  by_cases hnow : now < timer.next
  · rw [poll_of_lt hnow]
    exact ⟨rfl, hnow, Int.le_trans hsoon (Int.add_le_add_right hlater _)⟩
  · rw [poll_of_le (Int.not_lt.mp hnow)]
    exact ⟨rfl, lt_add_period hpositive now, Int.le_refl _⟩

/-! ## Polling again and again -/

def after (timer : Periodic) (polls : List Instant) : Periodic :=
  polls.foldl (fun timer now => (timer.poll now).2) timer

/-- The polls at which a timer fires. -/
def firings (timer : Periodic) : List Instant → List Instant
  | [] => []
  | now :: later =>
      if (timer.poll now).1 then now :: (timer.poll now).2.firings later
      else (timer.poll now).2.firings later

section Start

variable {period gap : Duration} {last now : Instant} {polls : List Instant}

theorem poll_start_of_lt (hnow : now < last + period) :
    (start period last).poll now = (false, start period last) :=
  poll_of_lt hnow

theorem poll_start_of_le (hnow : last + period ≤ now) :
    (start period last).poll now = (true, start period now) :=
  poll_of_le hnow

theorem firings_cons_of_lt (hnow : now < last + period) :
    (start period last).firings (now :: polls) =
      (start period last).firings polls := by
  simp [firings, poll_start_of_lt hnow]

theorem firings_cons_of_le (hnow : last + period ≤ now) :
    (start period last).firings (now :: polls) =
      now :: (start period now).firings polls := by
  simp [firings, poll_start_of_le hnow]

theorem firings_sublist (timer : Periodic) (polls : List Instant) :
    (timer.firings polls).Sublist polls := by
  induction polls generalizing timer with
  | nil => exact List.Sublist.refl []
  | cons now polls ih =>
      rw [firings]
      split
      · exact (ih _).cons_cons now
      · exact (ih _).cons now

/-- A timer is always one that was started when it last fired. -/
theorem after_start (period : Duration) (last : Instant)
    (polls : List Instant) :
    (start period last).after polls =
      start period (((start period last).firings polls).getLastD last) := by
  induction polls generalizing last with
  | nil => rfl
  | cons now polls ih =>
      rw [after, List.foldl_cons]
      by_cases hnow : now < last + period
      case pos =>
        rw [firings_cons_of_lt hnow, poll_start_of_lt hnow]
        exact ih last
      case neg =>
        have hdue := Int.not_lt.mp hnow
        rw [firings_cons_of_le hdue, poll_start_of_le hdue,
          List.getLastD_cons]
        exact ih now

theorem isChain_firings (period : Duration) (last : Instant)
    (polls : List Instant) :
    (last :: (start period last).firings polls).IsChain
      fun (earlier later : Instant) => earlier + period ≤ later := by
  induction polls generalizing last with
  | nil => exact List.isChain_singleton last
  | cons now polls ih =>
      by_cases hnow : now < last + period
      case pos =>
        rw [firings_cons_of_lt hnow]
        exact ih last
      case neg =>
        have hdue := Int.not_lt.mp hnow
        rw [firings_cons_of_le hdue]
        exact (ih now).cons_cons hdue

/-! ## Polls that are close together -/

/-- No poll is further than so much behind the one before it. -/
def PolledWithin (gap : Duration) (began : Instant) (polls : List Instant) :
    Prop :=
  (began :: polls).IsChain fun (earlier later : Instant) =>
    later ≤ earlier + gap

theorem lt_add_of_polled {before : Instant} (hbefore : before < last + period)
    {now : Instant} (hsoon : now ≤ before + gap) :
    now < last + (period + gap : Duration) :=
  calc
    now ≤ before + gap := hsoon
    _ < last + period + gap := Int.add_lt_add_right hbefore gap
    _ = last + (period + gap : Duration) := Int.add_assoc last period gap

/-- Before the polls there was one at which the timer was not due again. -/
theorem isChain_firings_of_polledWithin (hpositive : 0 < period)
    {before : Instant} (hbefore : before < last + period)
    (hpolled : PolledWithin gap before polls) :
    (last :: (start period last).firings polls).IsChain
      fun (earlier later : Instant) =>
        later < earlier + (period + gap : Duration) := by
  induction polls generalizing last before with
  | nil => exact List.isChain_singleton last
  | cons now polls ih =>
      obtain ⟨hsoon, hpolled⟩ := List.isChain_cons_cons.mp hpolled
      by_cases hnow : now < last + period
      case pos =>
        rw [firings_cons_of_lt hnow]
        exact ih hnow hpolled
      case neg =>
        rw [firings_cons_of_le (Int.not_lt.mp hnow)]
        exact (ih (lt_add_period hpositive now) hpolled).cons_cons
          (lt_add_of_polled hbefore hsoon)

/-- How many of some instants lie between two others. -/
def countBetween (left right : Instant) (instants : List Instant) : Nat :=
  instants.countP fun instant => left < instant ∧ instant < right

theorem countBetween_mono {left left' right right' : Instant}
    (hleft : left ≤ left') (hright : right' ≤ right)
    (instants : List Instant) :
    countBetween left' right' instants ≤
      countBetween left right instants := by
  apply List.countP_mono_left
  intro instant _ hbetween
  rw [decide_eq_true_iff] at hbetween ⊢
  exact ⟨Int.lt_of_le_of_lt hleft hbetween.1,
    Int.lt_of_lt_of_le hbetween.2 hright⟩

theorem countBetween_le_cons (left right instant : Instant)
    (instants : List Instant) :
    countBetween left right instants ≤
      countBetween left right (instant :: instants) :=
  (List.sublist_cons_self instant instants).countP_le

theorem countBetween_cons_of_between {left right instant : Instant}
    (hleft : left < instant) (hright : instant < right)
    (instants : List Instant) :
    countBetween left right (instant :: instants) =
      countBetween left right instants + 1 :=
  List.countP_cons_of_pos (by simp [hleft, hright])

section Span

variable {left first : Instant} {span : Duration}

theorem add_succ_mul (left : Instant) (span : Duration) (count : Nat) :
    left + ((count + 1) * span : Nat) = left + span + (count * span : Nat) := by
  rw [Nat.succ_mul, Nat.add_comm, Int.natCast_add, Int.add_assoc]

theorem lt_add_succ_mul (hfirst : first < left + span) (count : Nat) :
    first < left + ((count + 1) * span : Nat) := by
  rw [add_succ_mul]
  exact Int.lt_of_lt_of_le hfirst
    (Int.le_add_of_nonneg_right (Int.natCast_nonneg _))

theorem add_mul_le_add_succ_mul (hfirst : first < left + span) (count : Nat) :
    first + (count * span : Nat) ≤ left + ((count + 1) * span : Nat) := by
  rw [add_succ_mul]
  exact Int.add_le_add_right (Int.le_of_lt hfirst) _

/-- The first instant lies in the first of the spans, and one fewer spans lie
behind it. -/
theorem succ_le_countBetween_cons (hleft : left < first)
    (hfirst : first < left + span) {count : Nat} {later : List Instant}
    (hlater : count ≤
      countBetween first (first + (count * span : Nat)) later) :
    count + 1 ≤ countBetween left (left + ((count + 1) * span : Nat))
      (first :: later) := by
  rw [countBetween_cons_of_between hleft (lt_add_succ_mul hfirst count)]
  have hmono := countBetween_mono (Int.le_of_lt hleft)
    (add_mul_le_add_succ_mul hfirst count) later
  exact Nat.succ_le_succ (Nat.le_trans hlater hmono)

end Span

theorem le_countBetween_firings (hpositive : 0 < period) {before : Instant}
    (hbefore : before < last + period)
    (hpolled : PolledWithin gap before polls) {count : Nat} {left : Instant}
    (hleft : last ≤ left)
    (hcovered : ∃ poll ∈ polls,
      left + (count * (period + gap) : Nat) ≤ poll) :
    count ≤ countBetween left (left + (count * (period + gap) : Nat))
      ((start period last).firings polls) := by
  induction polls generalizing last before count left with
  | nil =>
      obtain ⟨poll, hpoll, _⟩ := hcovered
      cases hpoll
  | cons now polls ih =>
      cases count with
      | zero => exact Nat.zero_le _
      | succ count =>
          obtain ⟨hsoon, hpolled⟩ := List.isChain_cons_cons.mp hpolled
          obtain ⟨poll, hpoll, hreached⟩ := hcovered
          have hclose : now < left + (period + gap : Duration) :=
            Int.lt_of_lt_of_le (lt_add_of_polled hbefore hsoon)
              (Int.add_le_add_right hleft _)
          -- So the first poll is not the one that covers the spans.
          have hlater : now < poll :=
            Int.lt_of_lt_of_le (lt_add_succ_mul hclose count) hreached
          have hmem : poll ∈ polls :=
            List.mem_of_ne_of_mem (Int.ne_of_gt hlater) hpoll
          have hnext := lt_add_period hpositive now
          by_cases hnow : now < last + period
          case pos =>
            rw [firings_cons_of_lt hnow]
            exact ih hnow hpolled hleft ⟨poll, hmem, hreached⟩
          case neg =>
            rw [firings_cons_of_le (Int.not_lt.mp hnow)]
            by_cases hpast : now ≤ left
            case pos =>
              have hrest := ih hnext hpolled hpast ⟨poll, hmem, hreached⟩
              exact Nat.le_trans hrest (countBetween_le_cons _ _ now _)
            case neg =>
              have hrest := ih hnext hpolled (Int.le_refl now)
                ⟨poll, hmem, Int.le_trans
                  (add_mul_le_add_succ_mul hclose count) hreached⟩
              exact succ_le_countBetween_cons (Int.not_le.mp hpast) hclose
                hrest

end Start

/-! ## Every run -/

/-- When a timer fires that was started at `began`. -/
structure Spaced (period : Duration) (began : Instant)
    (polls : List Instant) : Prop where
  /-- Each firing has a poll of its own. -/
  polled : ((start period began).firings polls).Sublist polls
  /-- A poll finds the timer due if it comes a period after the last firing. -/
  due : ∀ early now, early ++ [now] <+: polls →
    ((((start period began).after early).poll now).1 = true ↔
      ((start period began).firings early).getLastD began + period ≤ now)
  /-- However late the poll is, the next period begins with it. -/
  restarted : ∀ early now, early ++ [now] <+: polls →
    (((start period began).after early).poll now).1 = true →
      (((start period began).after early).poll now).2 = start period now
  kept : ∀ early now, early ++ [now] <+: polls →
    (((start period began).after early).poll now).1 = false →
      (((start period began).after early).poll now).2 =
        (start period began).after early
  apart : (began :: (start period began).firings polls).IsChain
    fun (earlier later : Instant) => earlier + period ≤ later
  prompt : ∀ gap, PolledWithin gap began polls →
    (began :: (start period began).firings polls).IsChain
      fun (earlier later : Instant) =>
        later < earlier + (period + gap : Duration)
  /-- Any span of so many periods, each longer by the distance of the polls,
  holds as many firings. -/
  frequent : ∀ gap, PolledWithin gap began polls →
    ∀ left count, began ≤ left →
      (∃ poll ∈ polls, left + (count * (period + gap) : Nat) ≤ poll) →
      count ≤ countBetween left (left + (count * (period + gap) : Nat))
        ((start period began).firings polls)

/-- The firings are spaced like this in whatever order the polls come. -/
theorem spaced_start {period : Duration} (hpositive : 0 < period)
    (began : Instant) (polls : List Instant) : Spaced period began polls where
  polled := firings_sublist _ polls
  due early now _ := by
    rw [fst_poll_iff, after_start]
    rfl
  restarted early now _ hfires := by
    rw [snd_poll_of_fires hfires, after_start]
    rfl
  kept _ _ _ hwaits := snd_poll_of_waits hwaits
  apart := isChain_firings period began polls
  prompt _ hpolled :=
    isChain_firings_of_polledWithin hpositive (lt_add_period hpositive began)
      hpolled
  frequent _ hpolled _ _ hleft hcovered :=
    le_countBetween_firings hpositive (lt_add_period hpositive began) hpolled
      hleft hcovered

/-- Polls at most 900 ms apart. -/
def irregularPolls : List Instant :=
  [0, 900000000, 1000000000, 1500000000, 2100000000]

theorem spaced_start_irregularPolls :
    0 < Duration.seconds 1 ∧
      PolledWithin (.milliseconds 900) 0 irregularPolls ∧
      (start (.seconds 1) 0).firings irregularPolls =
        [1000000000, 2100000000] ∧
      1 ≤ countBetween 0 1900000000
        ((start (.seconds 1) 0).firings irregularPolls) ∧
      Spaced (.seconds 1) 0 irregularPolls := by
  have hpositive : 0 < Duration.seconds 1 := by
    decide
  have hpolled : PolledWithin (.milliseconds 900) 0 irregularPolls := by
    simp [PolledWithin, irregularPolls, Duration.milliseconds]
  have hspaced := spaced_start hpositive 0 irregularPolls
  refine ⟨hpositive, hpolled, by decide, ?_, hspaced⟩
  exact hspaced.frequent _ hpolled 0 1 (Int.le_refl 0)
    ⟨2100000000, by simp [irregularPolls], by decide⟩

end Periodic

end Pinhole
