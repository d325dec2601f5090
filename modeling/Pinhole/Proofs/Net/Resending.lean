import Pinhole.Proofs.Net.Inbox

/-!
# Sending one datagram again and again

A host sends the same datagram at fixed intervals and reads nothing.  What has
arrived before stays in front of what the datagram brings back, so it can be
taken away without disturbing the rest.
-/

namespace Pinhole

namespace Host

variable {σ : Type}

def sendAndRest (datagram : Datagram) (period : Duration) (host : Host σ) :
    Host σ :=
  let sent := (send datagram host).2
  { sent with now := sent.now + period }

/-- The host after a datagram was sent some times, with a period after each
time.  Nothing is read meanwhile. -/
def resend (datagram : Datagram) (period : Duration) :
    Nat → Host σ → Host σ
  | 0, host => host
  | count + 1, host =>
      resend datagram period count (sendAndRest datagram period host)

/-- A datagram can be sent, and brings back nothing before it is sent. -/
def Delivers (datagram : Datagram) (host : Host σ) : Prop :=
  ∃ arrivals peers,
    host.surroundings.deliver host.peers host.now datagram =
        .ok (arrivals, peers) ∧
      ∀ arrival ∈ arrivals, host.now ≤ arrival.time

def withEarlier (socket : Endpoint) (earlier : List Arrival)
    (host : Host σ) : Host σ :=
  { host with inbox := prepend socket earlier host.inbox }

section Resending

variable {datagram : Datagram} {host : Host σ} {socket : Endpoint}
  {earlier : List Arrival}

theorem delivers_succ {period : Duration} {count : Nat}
    (hdelivers : ∀ sent < count + 1,
      Delivers datagram (resend datagram period sent host)) :
    Delivers datagram host ∧
      ∀ sent < count,
        Delivers datagram
          (resend datagram period sent (sendAndRest datagram period host)) :=
  ⟨hdelivers 0 (Nat.succ_pos count),
    fun sent hsent => hdelivers (sent + 1) (Nat.succ_lt_succ hsent)⟩

theorem now_sendAndRest (hdelivers : Delivers datagram host)
    (period : Duration) :
    (sendAndRest datagram period host).now = host.now + period := by
  obtain ⟨arrivals, peers, hdeliver, _⟩ := hdelivers
  simp only [sendAndRest, send_eq_ok hdeliver]

theorem le_now_sendAndRest (hdelivers : Delivers datagram host)
    (period : Duration) :
    host.now ≤ (sendAndRest datagram period host).now := by
  rw [now_sendAndRest hdelivers]
  exact Int.le_add_of_nonneg_right (Int.natCast_nonneg period)

theorem inbox_sendAndRest (hdelivers : Delivers datagram host)
    (period : Duration) :
    ∃ arrivals, (∀ arrival ∈ arrivals, host.now ≤ arrival.time) ∧
      (sendAndRest datagram period host).inbox =
        distribute datagram.sender arrivals host.inbox := by
  obtain ⟨arrivals, peers, hdeliver, hcausal⟩ := hdelivers
  refine ⟨arrivals, hcausal, ?_⟩
  simp only [sendAndRest, send_eq_ok hdeliver]

/-! ## What arrives -/

theorem mem_resend_of_mem {period : Duration} {count : Nat}
    (hdelivers : ∀ sent < count,
      Delivers datagram (resend datagram period sent host))
    {arrival : Arrival} (hmem : arrival ∈ host.inbox socket) :
    arrival ∈ (resend datagram period count host).inbox socket := by
  induction count generalizing host with
  | zero => exact hmem
  | succ count ih =>
      obtain ⟨hfirst, hrest⟩ := delivers_succ hdelivers
      obtain ⟨arrivals, _, hinbox⟩ := inbox_sendAndRest hfirst period
      rw [resend]
      apply ih hrest
      rw [hinbox]
      exact mem_distribute.mpr (Or.inl hmem)

theorem le_time_of_mem_resend {period : Duration} {count : Nat}
    {time : Instant} (htime : time ≤ host.now)
    (hdelivers : ∀ sent < count,
      Delivers datagram (resend datagram period sent host))
    (hinbox : ∀ arrival ∈ host.inbox socket, time ≤ arrival.time) :
    ∀ arrival ∈ (resend datagram period count host).inbox socket,
      time ≤ arrival.time := by
  induction count generalizing host with
  | zero => exact hinbox
  | succ count ih =>
      obtain ⟨hfirst, hrest⟩ := delivers_succ hdelivers
      obtain ⟨arrivals, hcausal, hnext⟩ := inbox_sendAndRest hfirst period
      rw [resend]
      apply ih (Int.le_trans htime (le_now_sendAndRest hfirst period)) hrest
      intro arrival hmem
      rw [hnext] at hmem
      rcases mem_distribute.mp hmem with hold | ⟨hnew, _⟩
      · exact hinbox arrival hold
      · exact Int.le_trans htime (hcausal arrival hnew)

theorem chronological_resend {period : Duration} {count : Nat}
    (hdelivers : ∀ sent < count,
      Delivers datagram (resend datagram period sent host))
    (hchronological : Chronological (host.inbox socket)) :
    Chronological ((resend datagram period count host).inbox socket) := by
  induction count generalizing host with
  | zero => exact hchronological
  | succ count ih =>
      obtain ⟨hfirst, hrest⟩ := delivers_succ hdelivers
      obtain ⟨arrivals, _, hinbox⟩ := inbox_sendAndRest hfirst period
      rw [resend]
      apply ih hrest
      rw [hinbox]
      exact chronological_distribute arrivals hchronological

/-! ## What was there before -/

theorem inbox_withEarlier (socket : Endpoint) (earlier : List Arrival)
    (host : Host σ) :
    (host.withEarlier socket earlier).inbox socket =
      earlier ++ host.inbox socket :=
  if_pos rfl

theorem sendAndRest_withEarlier (hdelivers : Delivers datagram host)
    (hearlier : ∀ arrival ∈ earlier, arrival.time ≤ host.now)
    (socket : Endpoint) (period : Duration) :
    sendAndRest datagram period (host.withEarlier socket earlier) =
      (sendAndRest datagram period host).withEarlier socket earlier := by
  obtain ⟨arrivals, peers, hdeliver, hcausal⟩ := hdelivers
  have hlater : ∀ arrival ∈ arrivals, ∀ other ∈ earlier,
      other.time ≤ arrival.time := by
    intro arrival harrival other hother
    exact Int.le_trans (hearlier other hother) (hcausal arrival harrival)
  have hwith :
      (host.withEarlier socket earlier).surroundings.deliver
          (host.withEarlier socket earlier).peers
          (host.withEarlier socket earlier).now datagram =
        .ok (arrivals, peers) :=
    hdeliver
  simp only [sendAndRest, send_eq_ok hdeliver, send_eq_ok hwith]
  simp only [withEarlier, distribute_prepend hlater]

theorem resend_withEarlier {period : Duration} {count : Nat}
    (hdelivers : ∀ sent < count,
      Delivers datagram
        (resend datagram period sent (host.withEarlier socket earlier)))
    (hearlier : ∀ arrival ∈ earlier, arrival.time ≤ host.now) :
    resend datagram period count (host.withEarlier socket earlier) =
      (resend datagram period count host).withEarlier socket earlier := by
  induction count generalizing host with
  | zero => rfl
  | succ count ih =>
      obtain ⟨hwith, hrest⟩ := delivers_succ hdelivers
      -- What is delivered does not depend on the inboxes, so what is known of
      -- the one host holds of the other.
      have hfirst : Delivers datagram host := hwith
      rw [sendAndRest_withEarlier hfirst hearlier] at hrest
      rw [resend, sendAndRest_withEarlier hfirst hearlier]
      apply ih hrest
      intro arrival harrival
      exact Int.le_trans (hearlier arrival harrival)
        (le_now_sendAndRest hfirst period)

end Resending

end Host

end Pinhole
