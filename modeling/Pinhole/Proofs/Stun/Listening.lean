import Pinhole.Proofs.Net.Inbox
import Pinhole.Proofs.Stun.Attempt
import Pinhole.Stun.UdpExchange

/-!
# One attempt of an exchange

What an attempt does is told by the first datagram that answers before the
deadline.  If there is one, it decides; otherwise all that arrived before the
deadline is gone and the next attempt follows.
-/

namespace Pinhole

namespace UdpExchange

/-- What a wait can come to when the socket can always be read. -/
inductive Listened (answer? : Datagram → Option Message)
    (deadline : Instant) (arrivals : List Arrival) :
    Wait × List Arrival → Prop
  | answered {arrival datagram message unread}
      (hmem : arrival ∈ arrivals)
      (hdatagram : arrival.datagram? = some datagram)
      (htime : arrival.time < deadline)
      (hanswer : answer? datagram = some message)
      (hunread : unread.Sublist arrivals) :
      Listened answer? deadline arrivals
        (.answered arrival.time message, unread)
  | silent
      (hnone : ∀ arrival ∈ arrivals, arrival.time < deadline →
        arrival.datagram?.bind answer? = none) :
      Listened answer? deadline arrivals
        (.silent, arrivals.filter fun arrival => deadline ≤ arrival.time)

theorem listened_listen (answer? : Datagram → Option Message)
    (deadline : Instant) {arrivals : List Arrival}
    (hchronological : Chronological arrivals)
    (hreadable : ∀ arrival ∈ arrivals, arrival.datagram?.isSome) :
    Listened answer? deadline arrivals
      (listen answer? deadline arrivals) := by
  induction arrivals with
  | nil => exact Listened.silent (by simp)
  | cons first later ih =>
      obtain ⟨hfirst, hlater⟩ := List.pairwise_cons.mp hchronological
      have hrest := ih hlater fun arrival hmem =>
        hreadable arrival (List.mem_cons_of_mem _ hmem)
      obtain ⟨datagram, hdatagram⟩ :=
        Option.isSome_iff_exists.mp (hreadable first List.mem_cons_self)
      unfold listen
      by_cases htime : first.time < deadline
      · rw [if_pos htime, hdatagram]
        cases hanswer : answer? datagram with
        | some message =>
            simp only [hanswer]
            exact Listened.answered List.mem_cons_self hdatagram htime
              hanswer (List.sublist_cons_self first later)
        | none =>
            simp only [hanswer]
            generalize listen answer? deadline later = outcome at hrest
            cases hrest with
            | answered hmem hsome hbefore hmessage hunread =>
                exact Listened.answered (List.mem_cons_of_mem _ hmem) hsome
                  hbefore hmessage (hunread.cons first)
            | silent hnone =>
                have hgone :
                    (later.filter fun arrival => deadline ≤ arrival.time) =
                      (first :: later).filter
                        fun arrival => deadline ≤ arrival.time := by
                  rw [List.filter_cons_of_neg]
                  simpa using htime
                rw [hgone]
                apply Listened.silent
                intro arrival hmem hbefore
                rcases List.mem_cons.mp hmem with rfl | hold
                · simp [hdatagram, hanswer]
                · exact hnone arrival hold hbefore
      · rw [if_neg htime]
        have hlate : ∀ arrival ∈ first :: later, deadline ≤ arrival.time := by
          intro arrival hmem
          have hle : deadline ≤ first.time := Int.not_lt.mp htime
          rcases List.mem_cons.mp hmem with rfl | hold
          · exact hle
          · exact Int.le_trans hle (hfirst arrival hold)
        have hkept :
            (first :: later).filter (fun arrival => deadline ≤ arrival.time) =
              first :: later := by
          rw [List.filter_eq_self]
          simpa using hlate
        have hsilent :
            Listened answer? deadline (first :: later)
              (.silent, (first :: later).filter
                fun arrival => deadline ≤ arrival.time) := by
          apply Listened.silent
          intro arrival hmem hbefore
          exact absurd (hlate arrival hmem) (Int.not_le.mpr hbefore)
        rw [hkept] at hsilent
        exact hsilent

variable {σ : Type}

/-- The host after a wait. -/
def heard (host : Host σ) (socket : Endpoint) (unread : List Arrival)
    (time : Instant) : Host σ :=
  { host with
    inbox := fun other => if other = socket then unread else host.inbox other
    now := max host.now time }

/-- The instant at which a wait ends. -/
def Wait.finish (deadline : Instant) : Wait → Instant
  | .answered time _ => time
  | .failed time => time
  | .silent => deadline

theorem await_eq (host : Host σ) (socket : Endpoint)
    (answer? : Datagram → Option Message) (deadline : Instant) :
    await socket answer? deadline host =
      let outcome := listen answer? deadline (host.inbox socket)
      (outcome.1,
        heard host socket outcome.2 (outcome.1.finish deadline)) := by
  unfold await
  cases hwait : (listen answer? deadline (host.inbox socket)).1 <;>
    simp only [bind, StateT.bind, get, getThe, MonadStateOf.get, StateT.get,
      pure, Id, hwait] <;>
    rfl

section Attempts

variable {host sent : Host σ} {socket server : Endpoint} {request : Message}
  {change : Change} {timeout : Duration} {unread : List Arrival}

theorem run_exchange_succ
    (hsend :
      Host.send ⟨socket, server, request.encode⟩ host = (.ok (), sent))
    (attempts : Nat) :
    (exchange socket server change timeout request (attempts + 1)).run host =
      match await socket (answer? request server change)
          (sent.now + timeout) sent with
      | (.answered _ message, after) => (.ok message, after)
      | (_, after) =>
          (exchange socket server change timeout request attempts).run
            after := by
  have hsent := Attempt.run_ofSystem_of_ok hsend StunError.system
  rw [exchange, Attempt.run_bind_of_ok hsent,
    Attempt.run_bind_of_ok (Attempt.run_get sent),
    Attempt.run_bind_of_ok (Attempt.run_always _ _)]
  generalize await socket (answer? request server change)
    (sent.now + timeout) sent = outcome
  obtain ⟨wait, after⟩ := outcome
  cases wait <;> rfl

theorem run_exchange_of_answered
    (hsend :
      Host.send ⟨socket, server, request.encode⟩ host = (.ok (), sent))
    {time : Instant} {message : Message}
    (hlisten :
      listen (answer? request server change) (sent.now + timeout)
          (sent.inbox socket) =
        (.answered time message, unread))
    (attempts : Nat) :
    (exchange socket server change timeout request (attempts + 1)).run host =
      (.ok message, heard sent socket unread time) := by
  rw [run_exchange_succ hsend, await_eq, hlisten]
  rfl

theorem run_exchange_of_silent
    (hsend :
      Host.send ⟨socket, server, request.encode⟩ host = (.ok (), sent))
    (hlisten :
      listen (answer? request server change) (sent.now + timeout)
          (sent.inbox socket) =
        (.silent, unread))
    (attempts : Nat) :
    (exchange socket server change timeout request (attempts + 1)).run host =
      (exchange socket server change timeout request attempts).run
        (heard sent socket unread (sent.now + timeout)) := by
  rw [run_exchange_succ hsend, await_eq, hlisten]
  rfl

end Attempts

end UdpExchange

end Pinhole
