import Pinhole.Proofs.Forward.Lifetime

/-!
# Counting the missed pings

Whoever counts the pings learns of the pongs that are heard and of the pings
that are due.  The count is that of the pings since the last pong, also when
the mapping has been lost and nobody stopped, and a ping is told that the
mapping is lost if its number in the count reaches the limit.  After a pong
nothing is left of what came before it.
-/

namespace Pinhole

namespace UdpEngine

theorem unanswered_le_length (history : List Mark) :
    unanswered history ≤ history.length :=
  (List.rtakeWhile_suffix _ history).length_le

theorem unanswered_append_replicate (history : List Mark) (count : Nat) :
    unanswered (history ++ List.replicate count .ping) =
      unanswered history + count := by
  induction count with
  | zero => simp
  | succ count ih =>
      rw [List.replicate_succ', ← List.append_assoc, unanswered_append_ping,
        ih, Nat.add_assoc]

end UdpEngine

namespace PingState

open UdpEngine (Mark unanswered unanswered_append_ping
  unanswered_append_replicate unanswered_le_length)

def record (state : PingState) : Mark → Option ForwardError × PingState
  | .pong => (none, state.onPong)
  | .ping => state.onPing

/-- What is answered to each mark. -/
def answers (state : PingState) : List Mark → List (Option ForwardError)
  | [] => []
  | mark :: later => (state.record mark).1 :: (state.record mark).2.answers later

def after (state : PingState) (history : List Mark) : PingState :=
  history.foldl (fun state mark => (state.record mark).2) state

@[simp] theorem after_concat (state : PingState) (history : List Mark)
    (mark : Mark) :
    state.after (history ++ [mark]) = ((state.after history).record mark).2 := by
  simp [after]

/-! ## One mark -/

/-- The count is that of the history. -/
structure Tracks (state : PingState) (limit : UInt32) (history : List Mark) :
    Prop where
  limit_eq : state.maxMissed = limit
  missed : state.missed.toNat = unanswered history

section Tracks

variable {state : PingState} {limit : UInt32} {history : List Mark}

theorem tracks_new (limit : UInt32) : (new limit).Tracks limit [] :=
  ⟨rfl, rfl⟩

theorem Tracks.onPing (htracks : state.Tracks limit history)
    (hshort : unanswered (history ++ [.ping]) < UInt32.size) :
    state.onPing.1 = loss? limit (unanswered (history ++ [.ping])) ∧
      state.onPing.2.Tracks limit (history ++ [.ping]) := by
  rw [unanswered_append_ping, ← htracks.missed] at hshort ⊢
  obtain ⟨honPing, hnext⟩ := onPing_eq hshort
  rw [honPing]
  refine ⟨by rw [htracks.limit_eq], htracks.limit_eq, ?_⟩
  rw [unanswered_append_ping, ← htracks.missed]
  exact hnext

theorem Tracks.onPong (htracks : state.Tracks limit history) :
    state.onPong = new limit := by
  rw [PingState.onPong, htracks.limit_eq]
  rfl

/-! ## Many marks -/

theorem tracks_after (limit : UInt32) (history : List Mark)
    (hshort : ∀ early, early <+: history → unanswered early < UInt32.size) :
    ((new limit).after history).Tracks limit history := by
  induction history using List.reverseRecOn with
  | nil => exact tracks_new limit
  | append_singleton history mark ih =>
      have htracks := ih fun early hearly =>
        hshort early (hearly.trans (List.prefix_append history [mark]))
      rw [after_concat]
      cases mark with
      | pong =>
          rw [record, htracks.onPong]
          exact ⟨rfl, by simp [new]⟩
      | ping => exact (htracks.onPing (hshort _ (List.prefix_refl _))).2

theorem Tracks.answers_replicate (htracks : state.Tracks limit history)
    {count : Nat} (hshort : unanswered history + count < UInt32.size) :
    state.answers (List.replicate count .ping) =
      (List.range count).map fun place =>
        loss? limit (unanswered history + place + 1) := by
  induction count generalizing state history with
  | zero => rfl
  | succ count ih =>
      have hone : unanswered (history ++ [.ping]) < UInt32.size := by
        rw [unanswered_append_ping]
        omega
      obtain ⟨hanswer, hnext⟩ := htracks.onPing hone
      have hrest := ih hnext (by
        rw [unanswered_append_ping]
        omega)
      simp [List.replicate_succ, answers, record, hanswer, hrest,
        List.range_succ_eq_map, Function.comp_def, Nat.add_assoc,
        Nat.add_comm 1]

end Tracks

/-! ## Every history -/

/-- How the marks of a history are counted, and what is answered to them. -/
structure Counted (limit : UInt32) (history : List Mark) : Prop where
  /-- The count goes on after the mapping is lost. -/
  missed : ∀ early, early <+: history →
    ((new limit).after early).missed.toNat = unanswered early
  ping : ∀ early, early ++ [.ping] <+: history →
    ((new limit).after early).onPing.1 =
      loss? limit (unanswered (early ++ [.ping]))
  /-- Of the pings that follow a pong or the start, the loss of the mapping is
  told to the one whose number is the limit and to all later ones. -/
  unansweredRun : ∀ early count,
    unanswered early = 0 → early ++ List.replicate count .ping <+: history →
    ((new limit).after early).answers (List.replicate count .ping) =
      (List.range count).map fun place => loss? limit (place + 1)
  forgiven : ∀ early, early ++ [.pong] <+: history →
    (new limit).after (early ++ [.pong]) = new limit
  noneAllowed : limit = 0 → ∀ early, early ++ [.ping] <+: history →
    ((new limit).after early).onPing.1.isSome = true

/-- It is enough that no run of unanswered pings is so long that the count
would wrap around. -/
theorem counted_of_lt (limit : UInt32) (history : List Mark)
    (hshort : ∀ early, early <+: history → unanswered early < UInt32.size) :
    Counted limit history := by
  have htracks {early : List Mark} (hearly : early <+: history) :
      ((new limit).after early).Tracks limit early :=
    tracks_after limit early fun front hfront =>
      hshort front (hfront.trans hearly)
  have hping (early : List Mark) (hearly : early ++ [.ping] <+: history) :
      ((new limit).after early).onPing.1 =
        loss? limit (unanswered (early ++ [.ping])) :=
    ((htracks ((List.prefix_append early _).trans hearly)).onPing
      (hshort _ hearly)).1
  constructor
  case missed => exact fun early hearly => (htracks hearly).missed
  case ping => exact hping
  case unansweredRun =>
    intro early count hnone hearly
    have hcount := hshort _ hearly
    rw [unanswered_append_replicate] at hcount
    have hanswers :=
      (htracks ((List.prefix_append early _).trans hearly)).answers_replicate
        hcount
    simpa [hnone] using hanswers
  case forgiven =>
    intro early hearly
    rw [after_concat]
    exact (htracks ((List.prefix_append early _).trans hearly)).onPong
  case noneAllowed =>
    rintro rfl early hearly
    simp [hping early hearly, loss?]

def lossAndRecovery : List Mark :=
  [.ping, .ping, .ping, .pong, .ping, .ping]

theorem counted_of_lt_lossAndRecovery :
    (∀ early, early <+: lossAndRecovery → unanswered early < UInt32.size) ∧
      (new 2).answers lossAndRecovery =
        [none,
          some (.mappingLost "2 consecutive pings unanswered"),
          some (.mappingLost "3 consecutive pings unanswered"),
          none,
          none,
          some (.mappingLost "2 consecutive pings unanswered")] ∧
      Counted 2 lossAndRecovery := by
  have hshort (early : List Mark) (hearly : early <+: lossAndRecovery) :
      unanswered early < UInt32.size :=
    calc
      unanswered early ≤ early.length := unanswered_le_length early
      _ ≤ lossAndRecovery.length := hearly.length_le
      _ < UInt32.size := by decide
  exact ⟨hshort, by decide, counted_of_lt 2 lossAndRecovery hshort⟩

end PingState

end Pinhole
