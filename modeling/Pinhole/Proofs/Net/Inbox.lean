import Mathlib.Data.List.Basic
import Pinhole.Net.Host

/-!
# Inboxes

The arrivals in an inbox stand in the order of time, and what a datagram brings
back is added without disturbing it.
-/

namespace Pinhole

/-- No arrival is later than one behind it. -/
def Chronological (arrivals : List Arrival) : Prop :=
  arrivals.Pairwise fun first second => first.time ≤ second.time

namespace Host

@[simp] theorem mem_enqueue {arrival other : Arrival}
    {arrivals : List Arrival} :
    other ∈ enqueue arrival arrivals ↔ other = arrival ∨ other ∈ arrivals := by
  induction arrivals with
  | nil => simp [enqueue]
  | cons first later ih =>
      unfold enqueue
      split
      · simp only [List.mem_cons, ih]
        tauto
      · simp only [List.mem_cons]

theorem chronological_enqueue (arrival : Arrival) {arrivals : List Arrival}
    (hchronological : Chronological arrivals) :
    Chronological (enqueue arrival arrivals) := by
  induction arrivals with
  | nil => simp [enqueue, Chronological]
  | cons first later ih =>
      obtain ⟨hfirst, hlater⟩ := List.pairwise_cons.mp hchronological
      unfold enqueue
      split
      · rename_i hle
        apply List.pairwise_cons.mpr
        refine ⟨?_, ih hlater⟩
        intro other hother
        rcases mem_enqueue.mp hother with rfl | hold
        · exact hle
        · exact hfirst other hold
      · rename_i hlt
        apply List.pairwise_cons.mpr
        refine ⟨?_, hchronological⟩
        intro other hother
        have hle : arrival.time ≤ first.time :=
          Int.le_of_lt (Int.not_le.mp hlt)
        rcases List.mem_cons.mp hother with rfl | hold
        · exact hle
        · exact Int.le_trans hle (hfirst other hold)

theorem enqueue_append {arrival : Arrival} {earlier : List Arrival}
    (hearlier : ∀ other ∈ earlier, other.time ≤ arrival.time)
    (arrivals : List Arrival) :
    enqueue arrival (earlier ++ arrivals) =
      earlier ++ enqueue arrival arrivals := by
  induction earlier with
  | nil => rfl
  | cons first later ih =>
      obtain ⟨hfirst, hlater⟩ := List.forall_mem_cons.mp hearlier
      rw [List.cons_append, enqueue, if_pos hfirst, ih hlater,
        List.cons_append]

/-- The socket that an arrival is meant for. -/
def reader (sender : Endpoint) (arrival : Arrival) : Endpoint :=
  (arrival.datagram?.map Datagram.receiver).getD sender

/-- Puts arrivals into the inboxes they are meant for. -/
def distribute (sender : Endpoint) (arrivals : List Arrival)
    (inbox : Endpoint → List Arrival) : Endpoint → List Arrival :=
  arrivals.foldl
    (fun inbox arrival socket =>
      if socket = reader sender arrival then enqueue arrival (inbox socket)
      else inbox socket)
    inbox

variable {σ : Type}

theorem send_eq_ok {host : Host σ} {datagram : Datagram}
    {arrivals : List Arrival} {peers : σ}
    (hdeliver :
      host.surroundings.deliver host.peers host.now datagram =
        .ok (arrivals, peers)) :
    send datagram host =
      (.ok (),
        { host with
          peers := peers
          inbox := distribute datagram.sender arrivals host.inbox
          sent := host.sent ++ [(host.now, datagram)] }) := by
  unfold send
  rw [hdeliver]
  rfl

theorem mem_distribute {sender socket : Endpoint} {arrivals : List Arrival}
    {inbox : Endpoint → List Arrival} {arrival : Arrival} :
    arrival ∈ distribute sender arrivals inbox socket ↔
      arrival ∈ inbox socket ∨
        arrival ∈ arrivals ∧ reader sender arrival = socket := by
  induction arrivals generalizing inbox with
  | nil => simp [distribute]
  | cons first later ih =>
      have hrest := @ih fun socket =>
        if socket = reader sender first then enqueue first (inbox socket)
        else inbox socket
      rw [distribute, List.foldl_cons]
      refine Iff.trans hrest ?_
      by_cases hfirst : socket = reader sender first
      · subst hfirst
        rw [if_pos rfl, mem_enqueue, List.mem_cons]
        constructor
        · rintro ((rfl | hold) | ⟨hnew, hreader⟩)
          · exact Or.inr ⟨Or.inl rfl, rfl⟩
          · exact Or.inl hold
          · exact Or.inr ⟨Or.inr hnew, hreader⟩
        · rintro (hold | ⟨rfl | hnew, hreader⟩)
          · exact Or.inl (Or.inr hold)
          · exact Or.inl (Or.inl rfl)
          · exact Or.inr ⟨hnew, hreader⟩
      · rw [if_neg hfirst, List.mem_cons]
        constructor
        · rintro (hold | ⟨hnew, hreader⟩)
          · exact Or.inl hold
          · exact Or.inr ⟨Or.inr hnew, hreader⟩
        · rintro (hold | ⟨rfl | hnew, hreader⟩)
          · exact Or.inl hold
          · exact absurd hreader.symm hfirst
          · exact Or.inr ⟨hnew, hreader⟩

theorem chronological_distribute {sender socket : Endpoint}
    (arrivals : List Arrival) {inbox : Endpoint → List Arrival}
    (hchronological : Chronological (inbox socket)) :
    Chronological (distribute sender arrivals inbox socket) := by
  induction arrivals generalizing inbox with
  | nil => exact hchronological
  | cons first later ih =>
      rw [distribute, List.foldl_cons]
      apply ih
      split
      · exact chronological_enqueue first hchronological
      · exact hchronological

def prepend (socket : Endpoint) (earlier : List Arrival)
    (inbox : Endpoint → List Arrival) : Endpoint → List Arrival :=
  fun other =>
    if other = socket then earlier ++ inbox other else inbox other

theorem distribute_prepend {sender socket : Endpoint}
    {earlier arrivals : List Arrival}
    (hearlier : ∀ arrival ∈ arrivals, ∀ other ∈ earlier,
      other.time ≤ arrival.time)
    (inbox : Endpoint → List Arrival) :
    distribute sender arrivals (prepend socket earlier inbox) =
      prepend socket earlier (distribute sender arrivals inbox) := by
  induction arrivals generalizing inbox with
  | nil => rfl
  | cons first later ih =>
      obtain ⟨hfirst, hlater⟩ := List.forall_mem_cons.mp hearlier
      have hput :
          (fun other =>
              if other = reader sender first then
                enqueue first (prepend socket earlier inbox other)
              else prepend socket earlier inbox other) =
            prepend socket earlier fun other =>
              if other = reader sender first then
                enqueue first (inbox other)
              else inbox other := by
        funext other
        unfold prepend
        by_cases hother : other = socket
        · simp only [if_pos hother, enqueue_append hfirst]
          split <;> rfl
        · simp only [if_neg hother]
      have hrest := ih hlater fun other =>
        if other = reader sender first then enqueue first (inbox other)
        else inbox other
      rw [distribute, distribute, List.foldl_cons, List.foldl_cons, hput]
      exact hrest

end Host

end Pinhole
