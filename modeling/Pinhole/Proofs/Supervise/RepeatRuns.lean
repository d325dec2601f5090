import Mathlib.Data.List.SplitBy
import Pinhole.Supervise.RepeatFilter

/-!
# Runs of repeated messages

A stream of messages falls into runs of equal ones.  Within a run a filter
counts where it stands, modulo its period, and the first message of another run
starts the count again.  So what is let through of a run depends on its length
alone, and the count stays below the period however long the stream is.
-/

namespace Pinhole

namespace RepeatFilter

/-- One of so many messages of a run is let through. -/
def period (limit : UInt32) : Nat :=
  max 1 limit.toNat

/-- Which messages of a run are let through. -/
def passes (limit : UInt32) (length : Nat) : List Bool :=
  (List.range length).map fun place => place % period limit = 0

def after (filter : RepeatFilter) (messages : List String) : RepeatFilter :=
  messages.foldl (fun filter message => (filter.offer message).2) filter

theorem run_append (filter : RepeatFilter) (early late : List String) :
    filter.run (early ++ late) =
      filter.run early ++ (filter.after early).run late := by
  induction early generalizing filter with
  | nil => simp [run, after]
  | cons message early ih => simp [run, after, ih]

theorem after_append (filter : RepeatFilter) (early late : List String) :
    filter.after (early ++ late) = (filter.after early).after late := by
  simp [after]

theorem period_pos (limit : UInt32) : 0 < period limit := by
  simp only [period]
  omega

theorem period_lt_size (limit : UInt32) : period limit < UInt32.size := by
  have hlimit := limit.toNat_lt_size
  have hone : 1 < UInt32.size := by decide
  simp only [period]
  omega

/-! ## Within a run -/

/-- The message of the run that was offered last has this place in it. -/
structure Within (filter : RepeatFilter) (limit : UInt32) (message : String)
    (place : Nat) : Prop where
  limit_eq : filter.maxRepeats = limit
  last : filter.last = some message
  repeats : filter.repeats.toNat = place % period limit

section Run

variable {filter : RepeatFilter} {limit : UInt32} {message : String}
  {place : Nat}

theorem Within.lt_period (hwithin : filter.Within limit message place) :
    filter.repeats.toNat < period limit := by
  rw [hwithin.repeats]
  exact Nat.mod_lt place (period_pos limit)

theorem toNat_add_one_of_lt {count : UInt32}
    (hlt : count.toNat < period limit) :
    (count + 1).toNat = count.toNat + 1 := by
  have hsize : count.toNat + 1 < 2 ^ 32 :=
    Nat.lt_of_le_of_lt hlt (period_lt_size limit)
  rw [UInt32.toNat_add]
  exact Nat.mod_eq_of_lt hsize

theorem Within.offer_same (hwithin : filter.Within limit message place) :
    (filter.offer message).1 = decide ((place + 1) % period limit = 0) ∧
      (filter.offer message).2.Within limit message (place + 1) := by
  have hlt := hwithin.lt_period
  have hnext := toNat_add_one_of_lt hlt
  have hplace : (place + 1) % period limit =
      (filter.repeats.toNat + 1) % period limit := by
    rw [hwithin.repeats, Nat.mod_add_mod]
  have hbelow : filter.repeats + 1 < filter.maxRepeats ↔
      filter.repeats.toNat + 1 < period limit := by
    rw [UInt32.lt_iff_toNat_lt, hnext, hwithin.limit_eq]
    simp only [period]
    omega
  by_cases hend : filter.repeats.toNat + 1 < period limit
  case pos =>
    -- The count goes on, and a message that it counts is held back.
    rw [Nat.mod_eq_of_lt hend] at hplace
    have hheld : filter.last = some message ∧
        filter.repeats + 1 < filter.maxRepeats :=
      ⟨hwithin.last, hbelow.mpr hend⟩
    rw [offer, if_pos hheld]
    refine ⟨by simp [hplace], hwithin.limit_eq, hwithin.last, ?_⟩
    rw [hplace]
    exact hnext
  case neg =>
    have hfull : filter.repeats.toNat + 1 = period limit :=
      Nat.le_antisymm hlt (Nat.le_of_not_lt hend)
    rw [hfull, Nat.mod_self] at hplace
    have hpasses : ¬ (filter.last = some message ∧
        filter.repeats + 1 < filter.maxRepeats) := by
      simp [hbelow, hend]
    rw [offer, if_neg hpasses]
    exact ⟨by simp [hplace], hwithin.limit_eq, rfl, by simp [hplace]⟩

theorem offer_other (hlimit : filter.maxRepeats = limit)
    (hother : filter.last ≠ some message) :
    (filter.offer message).1 = true ∧
      (filter.offer message).2.Within limit message 0 := by
  rw [offer, if_neg (by simp [hother])]
  exact ⟨rfl, hlimit, rfl, by simp⟩

theorem Within.run_replicate (hwithin : filter.Within limit message place)
    (count : Nat) :
    filter.run (List.replicate count message) =
        (List.range count).map (fun further =>
          decide ((place + 1 + further) % period limit = 0)) ∧
      (filter.after (List.replicate count message)).Within limit message
        (place + count) := by
  induction count generalizing filter place with
  | zero => simp [run, after, hwithin]
  | succ count ih =>
      obtain ⟨hanswer, hnext⟩ := hwithin.offer_same
      obtain ⟨hrun, hafter⟩ := ih hnext
      have hplaces (further : Nat) :
          place + 1 + 1 + further = place + 1 + (further + 1) := by
        omega
      constructor
      · simp [List.replicate_succ, run, hanswer, hrun, List.range_succ_eq_map,
          hplaces]
      · rw [List.replicate_succ, after, List.foldl_cons]
        rw [Nat.add_right_comm] at hafter
        exact hafter

/-- A whole run, behind a message that is another one. -/
theorem run_replicate_of_other (hlimit : filter.maxRepeats = limit)
    (hother : filter.last ≠ some message) (count : Nat) :
    filter.run (List.replicate (count + 1) message) =
        passes limit (count + 1) ∧
      (filter.after (List.replicate (count + 1) message)).Within limit message
        count := by
  obtain ⟨hanswer, hfirst⟩ := offer_other hlimit hother
  obtain ⟨hrun, hafter⟩ := hfirst.run_replicate count
  rw [Nat.zero_add] at hafter
  refine ⟨?_, hafter⟩
  simp [List.replicate_succ, run, passes, hanswer, hrun,
    List.range_succ_eq_map, Nat.add_comm]

end Run

/-! ## A stream of runs -/

/-- The runs of a stream: none is empty, the messages of each are equal, and
the last message of each differs from the first of the next. -/
structure AreRuns (runs : List (List String)) : Prop where
  nonempty : [] ∉ runs
  equal : ∀ run ∈ runs, run.IsChain fun left right => (left == right) = true
  differ : runs.IsChain fun left right =>
    ∃ hleft hright, (left.getLast hleft == right.head hright) = false

theorem areRuns_splitBy (messages : List String) :
    AreRuns (messages.splitBy (· == ·)) where
  nonempty := List.nil_notMem_splitBy _ messages
  equal _ hrun := List.isChain_of_mem_splitBy hrun
  differ := List.isChain_getLast_head_splitBy _ messages

theorem AreRuns.tail {run : List String} {runs : List (List String)}
    (hruns : AreRuns (run :: runs)) : AreRuns runs where
  nonempty hnil := hruns.nonempty (List.mem_cons_of_mem run hnil)
  equal other hother := hruns.equal other (List.mem_cons_of_mem run hother)
  differ := hruns.differ.tail

/-- The first run repeats a message that the next run does not start with. -/
theorem AreRuns.exists_replicate {run : List String}
    {runs : List (List String)} (hruns : AreRuns (run :: runs)) :
    ∃ message count, run = List.replicate (count + 1) message ∧
      runs.flatten.head? ≠ some message := by
  have hnonempty : run ≠ [] := by
    rintro rfl
    exact hruns.nonempty List.mem_cons_self
  obtain ⟨message, others, hcons⟩ := List.exists_cons_of_ne_nil hnonempty
  have hequal : run = List.replicate run.length message := by
    have hchain := hruns.equal run List.mem_cons_self
    simp only [beq_iff_eq] at hchain
    exact List.isChain_eq_iff_eq_replicate.mp hchain message (by simp [hcons])
  have hlength : run.length = others.length + 1 := by
    simp [hcons]
  rw [hlength] at hequal
  refine ⟨message, others.length, hequal, ?_⟩
  cases runs with
  | nil => simp
  | cons next runs =>
      obtain ⟨hlast, hhead, hdiffer⟩ :=
        (List.isChain_cons_cons.mp hruns.differ).1
      obtain ⟨first, rest, rfl⟩ := List.exists_cons_of_ne_nil hhead
      simp only [hequal, List.getLast_replicate, List.head_cons,
        beq_eq_false_iff_ne] at hdiffer
      simpa using hdiffer.symm

theorem run_flatten {filter : RepeatFilter} {limit : UInt32}
    (hlimit : filter.maxRepeats = limit) {runs : List (List String)}
    (hruns : AreRuns runs)
    (hfirst : ∀ message, filter.last = some message →
      runs.flatten.head? ≠ some message) :
    filter.run runs.flatten =
      runs.flatMap fun run => passes limit run.length := by
  induction runs generalizing filter with
  | nil => simp [run]
  | cons first runs ih =>
      obtain ⟨message, count, rfl, hnext⟩ := hruns.exists_replicate
      -- The message remembered from before never starts the next run.
      have hother : filter.last ≠ some message := by
        intro hlast
        exact hfirst message hlast (by simp [List.replicate_succ])
      obtain ⟨hrun, hafter⟩ := run_replicate_of_other hlimit hother count
      have hrest := ih hafter.limit_eq hruns.tail (by
        intro other hlast
        rw [hafter.last, Option.some.injEq] at hlast
        exact hlast ▸ hnext)
      simp [run_append, hrun, hrest]

/-! ## At every moment -/

/-- The filter remembers the message that was offered last, whether or not it
was let through, and where that message stands in its run. -/
theorem exists_within (limit : UInt32) (messages : List String)
    (message : String) :
    ∃ place, ((new limit).after (messages ++ [message])).Within limit message
      place := by
  induction messages using List.reverseRecOn generalizing message with
  | nil =>
      have hfirst : (new limit).last ≠ some message := by
        simp [new]
      exact ⟨0, (offer_other rfl hfirst).2⟩
  | append_singleton messages before ih =>
      obtain ⟨place, hwithin⟩ := ih before
      rw [after_append]
      by_cases hsame : before = message
      case pos =>
        subst hsame
        exact ⟨place + 1, hwithin.offer_same.2⟩
      case neg =>
        have hother : ((new limit).after (messages ++ [before])).last ≠
            some message := by
          simp [hwithin.last, hsame]
        exact ⟨0, (offer_other hwithin.limit_eq hother).2⟩

/-- What is known of a filter that was new before some messages. -/
structure Remembers (filter : RepeatFilter) (limit : UInt32)
    (messages : List String) : Prop where
  limit_eq : filter.maxRepeats = limit
  last : filter.last = messages.getLast?
  repeats_lt : filter.repeats.toNat < period limit

theorem remembers_after (limit : UInt32) (messages : List String) :
    ((new limit).after messages).Remembers limit messages := by
  induction messages using List.reverseRecOn with
  | nil => exact ⟨rfl, rfl, period_pos limit⟩
  | append_singleton messages message _ =>
      obtain ⟨place, hwithin⟩ := exists_within limit messages message
      exact ⟨hwithin.limit_eq, by simp [hwithin.last], hwithin.lt_period⟩

/-- Of each run of equal messages a new filter lets through those whose place is
a multiple of the period, and nothing that came before the run matters.  At
every moment the count with the next message in it is at most the period, so
it does not wrap around. -/
theorem run_splitBy (limit : UInt32) (messages : List String) :
    (new limit).run messages =
        (messages.splitBy (· == ·)).flatMap
          (fun run => passes limit run.length) ∧
      (∀ later, (∀ message, messages.getLast? = some message →
          later.head? ≠ some message) →
        ((new limit).after messages).run later = (new limit).run later) ∧
      (((new limit).after messages).repeats + 1).toNat =
        ((new limit).after messages).repeats.toNat + 1 ∧
      ((new limit).after messages).repeats.toNat + 1 ≤ max 1 limit.toNat := by
  have hremembers := remembers_after limit messages
  have hnew (stream : List String) : (new limit).run stream =
      (stream.splitBy (· == ·)).flatMap fun run => passes limit run.length := by
    have hlimit : (new limit).maxRepeats = limit := rfl
    have hrun := run_flatten hlimit (areRuns_splitBy stream) (by simp [new])
    rwa [List.flatten_splitBy] at hrun
  refine ⟨hnew messages, ?_, ?_, hremembers.repeats_lt⟩
  · intro later hdiffers
    rw [hnew later]
    have hrun := run_flatten hremembers.limit_eq (areRuns_splitBy later)
      (by simpa [hremembers.last] using hdiffers)
    rwa [List.flatten_splitBy] at hrun
  · exact toNat_add_one_of_lt hremembers.repeats_lt

end RepeatFilter

end Pinhole
