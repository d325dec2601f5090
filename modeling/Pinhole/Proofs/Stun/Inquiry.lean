import Pinhole.Proofs.Net.Resending
import Pinhole.Proofs.Stun.Listening

/-!
# The attempts of an exchange

The request of an exchange is sent at fixed intervals whatever arrives, until
a datagram answers it.  So what will arrive at the socket is what arrives when
the request is sent as often as the settings allow and nothing is read, and of
that only the first answer counts.
-/

namespace Pinhole

namespace Instant

theorem since_div_of_lt {start time : Int} {period : Nat}
    (hlt : time < start + period) :
    Instant.since time start / period = 0 := by
  have hsince : (time - start).toNat < period ∨ period = 0 := by omega
  rcases hsince with hsince | rfl
  · exact Nat.div_eq_of_lt hsince
  · exact Nat.div_zero _

theorem since_div_of_le {start time : Int} {period : Nat}
    (hperiod : 0 < period) (hle : start + period ≤ time) :
    Instant.since time start / period =
      Instant.since time (start + period) / period + 1 := by
  have hsince : (time - start).toNat =
      (time - (start + period)).toNat + period := by
    omega
  rw [since, since, hsince, Nat.add_div_right _ hperiod]

theorem max_eq_of_le {start time : Int} {period : Nat}
    (hle : start + period ≤ time) :
    max start time = max (start + period) time := by
  omega

theorem max_add_period (start : Int) (period : Nat) :
    max start (start + period) = start + period := by
  omega

theorem add_succ_mul (start : Int) (count period : Nat) :
    start + ((count + 1) * period : Nat) =
      start + period + (count * period : Nat) := by
  rw [Nat.succ_mul, Nat.add_comm, Int.natCast_add, Int.add_assoc]

end Instant

/-- Who asks whom for what, and how long each attempt waits. -/
structure Inquiry where
  socket : Endpoint
  server : Endpoint
  change : Change
  request : Message
  period : Duration

namespace Inquiry

variable {σ : Type}

def datagram (inquiry : Inquiry) : Datagram :=
  ⟨inquiry.socket, inquiry.server, inquiry.request.encode⟩

/-- When and with which message an arrival answers. -/
def reply? (inquiry : Inquiry) (arrival : Arrival) :
    Option (Instant × Message) :=
  arrival.datagram?.bind fun datagram =>
    match Message.decode datagram.bytes with
    | .error _ => none
    | .ok message =>
        if message.transaction = inquiry.request.transaction ∧
            inquiry.change.accepts inquiry.server datagram.sender then
          some (arrival.time, message)
        else none

/-- What arrives at the socket if the request is sent some times and nothing
is read. -/
def incoming (inquiry : Inquiry) (count : Nat) (host : Host σ) :
    List Arrival :=
  (host.resend inquiry.datagram inquiry.period count).inbox inquiry.socket

def replies (inquiry : Inquiry) (count : Nat) (host : Host σ) :
    List (Instant × Message) :=
  (inquiry.incoming count host).filterMap inquiry.reply?

def sendings (inquiry : Inquiry) (start : Instant) (count : Nat) :
    List (Instant × Datagram) :=
  (List.range count).map fun index =>
    (start + (index * inquiry.period : Nat), inquiry.datagram)

/-- The request can be sent and all that arrives can be read, and arrives no
earlier than what it is brought back by is sent. -/
structure Undisturbed (inquiry : Inquiry) (count : Nat) (host : Host σ) :
    Prop where
  ordered : Chronological (host.inbox inquiry.socket)
  delivers : ∀ sent < count,
    (host.resend inquiry.datagram inquiry.period sent).Delivers
      inquiry.datagram
  readable : ∀ arrival ∈ inquiry.incoming count host, ∃ datagram,
    arrival.datagram? = some datagram ∧ datagram.bytes.length ≤ 1500

/-- What an exchange comes to: nothing without an answer in time, and
otherwise what the first answer says. -/
structure Settled {α : Type} (inquiry : Inquiry)
    (conclude : Message → Except StunError α) (count : Nat)
    (host : Host σ) (outcome : Except StunError α) (after : Host σ) :
    Prop where
  silent :
    (∀ reply ∈ inquiry.replies count host,
      host.now + (count * inquiry.period : Nat) ≤ reply.1) →
    outcome = .error (.timeout inquiry.server) ∧
      after.now = host.now + (count * inquiry.period : Nat) ∧
      after.sent = host.sent ++ inquiry.sendings host.now count
  answered : ∀ time message later,
    inquiry.replies count host = (time, message) :: later →
    time < host.now + (count * inquiry.period : Nat) →
    outcome = conclude message ∧ after.now = max host.now time ∧
      after.sent = host.sent ++
        inquiry.sendings host.now (time.since host.now / inquiry.period + 1)

section Attempts

variable {inquiry : Inquiry} {host sent : Host σ} {count : Nat}

theorem reply?_eq_map (inquiry : Inquiry) {arrival : Arrival}
    {datagram : Datagram} (hdatagram : arrival.datagram? = some datagram)
    (hlength : datagram.bytes.length ≤ 1500) :
    inquiry.reply? arrival =
      (UdpExchange.answer? inquiry.request inquiry.server inquiry.change
        datagram).map (arrival.time, ·) := by
  rw [reply?, hdatagram, UdpExchange.answer?, UdpExchange.receiveLimit,
    List.take_of_length_le hlength]
  dsimp only [Option.bind_some]
  cases Message.decode datagram.bytes with
  | error error => rfl
  | ok message =>
      dsimp only
      split <;> rfl

theorem reply?_eq_some {arrival : Arrival} {time : Instant}
    {message : Message}
    (hreply : inquiry.reply? arrival = some (time, message)) :
    arrival.time = time ∧
      message.transaction = inquiry.request.transaction := by
  obtain ⟨datagram, _, hmessage⟩ := Option.bind_eq_some_iff.mp hreply
  cases hdecode : Message.decode datagram.bytes with
  | error error => simp [hdecode] at hmessage
  | ok read =>
      simp only [hdecode, Option.ite_none_right_eq_some, Option.some.injEq,
        Prod.mk.injEq] at hmessage
      obtain ⟨⟨htransaction, _⟩, htime, rfl⟩ := hmessage
      exact ⟨htime, htransaction⟩

/-- What a wait passes over and what it leaves. -/
inductive Sifted (inquiry : Inquiry) (deadline : Instant) :
    List Arrival → UdpExchange.Wait × List Arrival → Prop
  | answered (earlier unread : List Arrival) {arrival : Arrival}
      {message : Message}
      (hearlier : ∀ other ∈ earlier, inquiry.reply? other = none)
      (htime : arrival.time < deadline)
      (hreply : inquiry.reply? arrival = some (arrival.time, message)) :
      Sifted inquiry deadline (earlier ++ arrival :: unread)
        (.answered arrival.time message, unread)
  | silent (earlier unread : List Arrival)
      (hearlier : ∀ other ∈ earlier,
        inquiry.reply? other = none ∧ other.time < deadline)
      (hunread : ∀ arrival ∈ unread, deadline ≤ arrival.time) :
      Sifted inquiry deadline (earlier ++ unread) (.silent, unread)

theorem sifted_listen (inquiry : Inquiry) (deadline : Instant)
    {arrivals : List Arrival} (hchronological : Chronological arrivals)
    (hreadable : ∀ arrival ∈ arrivals, ∃ datagram,
      arrival.datagram? = some datagram ∧ datagram.bytes.length ≤ 1500) :
    Sifted inquiry deadline arrivals
      (UdpExchange.listen
        (UdpExchange.answer? inquiry.request inquiry.server inquiry.change)
        deadline arrivals) := by
  induction arrivals with
  | nil => exact Sifted.silent [] [] (by simp) (by simp)
  | cons first later ih =>
      obtain ⟨hfirst, hlater⟩ := List.pairwise_cons.mp hchronological
      have hrest := ih hlater fun arrival hmem =>
        hreadable arrival (List.mem_cons_of_mem _ hmem)
      obtain ⟨datagram, hdatagram, hlength⟩ :=
        hreadable first List.mem_cons_self
      have hreply := inquiry.reply?_eq_map hdatagram hlength
      unfold UdpExchange.listen
      by_cases htime : first.time < deadline
      · rw [if_pos htime, hdatagram]
        cases hanswer : UdpExchange.answer? inquiry.request inquiry.server
            inquiry.change datagram with
        | some message =>
            rw [hanswer] at hreply
            simp only [hanswer]
            exact Sifted.answered [] later (by simp) htime hreply
        | none =>
            rw [hanswer] at hreply
            simp only [hanswer]
            generalize UdpExchange.listen _ deadline later = outcome at hrest
            cases hrest with
            | answered earlier unread hearlier hbefore hmessage =>
                refine Sifted.answered (first :: earlier) unread ?_ hbefore
                  hmessage
                exact List.forall_mem_cons.mpr ⟨hreply, hearlier⟩
            | silent earlier unread hearlier hunread =>
                refine Sifted.silent (first :: earlier) unread ?_ hunread
                exact List.forall_mem_cons.mpr ⟨⟨hreply, htime⟩, hearlier⟩
      · rw [if_neg htime]
        have hle : deadline ≤ first.time := Int.not_lt.mp htime
        refine Sifted.silent [] (first :: later) (by simp) ?_
        refine List.forall_mem_cons.mpr ⟨hle, ?_⟩
        intro arrival hmem
        exact Int.le_trans hle (hfirst arrival hmem)

theorem sendings_succ (inquiry : Inquiry) (start : Instant) (count : Nat) :
    inquiry.sendings start (count + 1) =
      (start, inquiry.datagram) ::
        inquiry.sendings (start + inquiry.period) count := by
  rw [sendings, List.range_succ_eq_map, List.map_cons, List.map_map]
  congr 1
  · simp
  · apply List.map_congr_left
    intro index _
    exact congrArg (·, inquiry.datagram)
      (Instant.add_succ_mul start index inquiry.period)

structure Sends (inquiry : Inquiry) (host sent : Host σ) : Prop where
  runs : Host.send inquiry.datagram host = (.ok (), sent)
  now_eq : sent.now = host.now
  sent_eq : sent.sent = host.sent ++ [(host.now, inquiry.datagram)]
  ordered : Chronological (sent.inbox inquiry.socket)
  readable : ∀ arrival ∈ sent.inbox inquiry.socket, ∃ datagram,
    arrival.datagram? = some datagram ∧ datagram.bytes.length ≤ 1500

theorem Undisturbed.sends
    (hundisturbed : inquiry.Undisturbed (count + 1) host) :
    ∃ sent, inquiry.Sends host sent := by
  obtain ⟨hfirst, hrest⟩ := Host.delivers_succ hundisturbed.delivers
  obtain ⟨arrivals, peers, hdeliver, _⟩ := hfirst
  have hsend := Host.send_eq_ok hdeliver
  refine ⟨_, hsend, rfl, rfl, ?_, ?_⟩
  · exact Host.chronological_distribute arrivals hundisturbed.ordered
  · intro arrival hmem
    apply hundisturbed.readable
    rw [incoming, Host.resend]
    apply Host.mem_resend_of_mem hrest
    rw [Host.sendAndRest, hsend]
    exact hmem

theorem sendAndRest_eq_withEarlier
    (hsends : inquiry.Sends host sent) {earlier unread : List Arrival}
    (hinbox : sent.inbox inquiry.socket = earlier ++ unread) :
    host.sendAndRest inquiry.datagram inquiry.period =
      (UdpExchange.heard sent inquiry.socket unread
        (sent.now + inquiry.period)).withEarlier inquiry.socket earlier := by
  have hwhole : sent.inbox =
      Host.prepend inquiry.socket earlier fun other =>
        if other = inquiry.socket then unread else sent.inbox other := by
    funext other
    simp only [Host.prepend]
    split
    · rename_i hother
      rw [hother, hinbox]
    · rfl
  rw [Host.sendAndRest, hsends.runs]
  simp only [UdpExchange.heard, Host.withEarlier, ← hwhole,
    Instant.max_add_period]

theorem Undisturbed.next
    (hundisturbed : inquiry.Undisturbed (count + 1) host)
    (hsends : inquiry.Sends host sent) {earlier unread : List Arrival}
    (hinbox : sent.inbox inquiry.socket = earlier ++ unread)
    (hearlier : ∀ arrival ∈ earlier,
      arrival.time ≤ sent.now + inquiry.period) :
    let after := UdpExchange.heard sent inquiry.socket unread
      (sent.now + inquiry.period)
    inquiry.Undisturbed count after ∧
      inquiry.incoming (count + 1) host =
        earlier ++ inquiry.incoming count after := by
  intro after
  have hafter := sendAndRest_eq_withEarlier hsends hinbox
  have hpast : ∀ arrival ∈ earlier, arrival.time ≤ after.now := by
    intro arrival harrival
    exact Int.le_trans (hearlier arrival harrival) (Int.le_max_right _ _)
  have hdelivers := (Host.delivers_succ hundisturbed.delivers).2
  rw [hafter] at hdelivers
  have hresend (again : Nat) (hagain : again ≤ count) :
      Host.resend inquiry.datagram inquiry.period again
          (after.withEarlier inquiry.socket earlier) =
        (Host.resend inquiry.datagram inquiry.period again
          after).withEarlier inquiry.socket earlier :=
    Host.resend_withEarlier
      (fun first hfirst => hdelivers first (Nat.lt_of_lt_of_le hfirst hagain))
      hpast
  have hincoming :
      inquiry.incoming (count + 1) host =
        earlier ++ inquiry.incoming count after := by
    rw [incoming, Host.resend, hafter, hresend count (Nat.le_refl count),
      Host.inbox_withEarlier]
    rfl
  refine ⟨?_, hincoming⟩
  constructor
  case ordered =>
    have hordered := hsends.ordered
    have hunread : after.inbox inquiry.socket = unread := if_pos rfl
    rw [hinbox] at hordered
    rw [hunread]
    exact (List.pairwise_append.mp hordered).2.1
  case delivers =>
    intro again hagain
    have hlater := hdelivers again hagain
    rw [hresend again (Nat.le_of_lt hagain)] at hlater
    exact hlater
  case readable =>
    intro arrival harrival
    apply hundisturbed.readable
    rw [hincoming]
    exact List.mem_append_right _ harrival

theorem replies_eq_of_incoming {first after : Host σ}
    {earlier : List Arrival} {more : Nat}
    (hincoming :
      inquiry.incoming more first = earlier ++ inquiry.incoming count after)
    (hearlier : ∀ arrival ∈ earlier, inquiry.reply? arrival = none) :
    inquiry.replies more first = inquiry.replies count after := by
  rw [replies, hincoming, List.filterMap_append,
    List.filterMap_eq_nil_iff.mpr hearlier, List.nil_append]
  rfl

/-- An attempt without an answer puts everything off by one period. -/
theorem Settled.of_next {α : Type} {conclude : Message → Except StunError α}
    {after last : Host σ} {outcome : Except StunError α}
    (hperiod : 0 < inquiry.period)
    (hreplies :
      inquiry.replies (count + 1) host = inquiry.replies count after)
    (hlate : ∀ reply ∈ inquiry.replies count after, after.now ≤ reply.1)
    (hnow : after.now = host.now + inquiry.period)
    (hsent : after.sent = host.sent ++ [(host.now, inquiry.datagram)])
    (hsettled : inquiry.Settled conclude count after outcome last) :
    inquiry.Settled conclude (count + 1) host outcome last := by
  have hdeadline :
      host.now + ((count + 1) * inquiry.period : Nat) =
        after.now + (count * inquiry.period : Nat) := by
    rw [hnow]
    exact Instant.add_succ_mul host.now count inquiry.period
  have hsendings (more : Nat) :
      host.sent ++ inquiry.sendings host.now (more + 1) =
        after.sent ++ inquiry.sendings after.now more := by
    rw [sendings_succ, hsent, hnow, List.append_assoc, List.singleton_append]
  constructor
  case silent =>
    intro hnone
    rw [hreplies, hdeadline] at hnone
    rw [hsendings, hdeadline]
    exact hsettled.silent hnone
  case answered =>
    intro time message later hfirst htime
    rw [hreplies] at hfirst
    rw [hdeadline] at htime
    have hmem : (time, message) ∈ inquiry.replies count after := by
      rw [hfirst]
      exact List.mem_cons_self
    have hle : host.now + inquiry.period ≤ time := hnow ▸ hlate _ hmem
    rw [Instant.max_eq_of_le hle, Instant.since_div_of_le hperiod hle,
      hsendings, ← hnow]
    exact hsettled.answered time message later hfirst htime

theorem mem_replies_iff {time : Instant} {message : Message} :
    (time, message) ∈ inquiry.replies count host ↔
      ∃ arrival ∈ inquiry.incoming count host,
        inquiry.reply? arrival = some (time, message) :=
  List.mem_filterMap

theorem le_of_mem_replies {start time : Instant} {message : Message}
    (hincoming : ∀ arrival ∈ inquiry.incoming count host,
      start ≤ arrival.time)
    (hmem : (time, message) ∈ inquiry.replies count host) :
    start ≤ time := by
  obtain ⟨arrival, harrival, hreply⟩ := mem_replies_iff.mp hmem
  rw [← (reply?_eq_some hreply).1]
  exact hincoming arrival harrival

theorem settled_of_answered
    (hundisturbed : inquiry.Undisturbed (count + 1) host)
    (hsends : inquiry.Sends host sent) {earlier unread : List Arrival}
    {arrival : Arrival} {message : Message}
    (hinbox : sent.inbox inquiry.socket = earlier ++ arrival :: unread)
    (hearlier : ∀ other ∈ earlier, inquiry.reply? other = none)
    (htime : arrival.time < sent.now + inquiry.period)
    (hreply : inquiry.reply? arrival = some (arrival.time, message)) :
    inquiry.Settled .ok (count + 1) host (.ok message)
      (UdpExchange.heard sent inquiry.socket unread arrival.time) := by
  have hpast : ∀ other ∈ earlier ++ [arrival],
      other.time ≤ sent.now + inquiry.period := by
    have hordered := hsends.ordered
    rw [hinbox] at hordered
    have hbefore := (List.pairwise_append.mp hordered).2.2
    intro other hother
    rcases List.mem_append.mp hother with hold | hlast
    · exact Int.le_trans (hbefore other hold arrival List.mem_cons_self)
        (Int.le_of_lt htime)
    · rw [List.mem_singleton.mp hlast]
      exact Int.le_of_lt htime
  obtain ⟨later, hreplies⟩ : ∃ later,
      inquiry.replies (count + 1) host =
        (arrival.time, message) :: later := by
    rw [List.append_cons] at hinbox
    obtain ⟨_, hincoming⟩ := hundisturbed.next hsends hinbox hpast
    rw [replies, hincoming, List.append_assoc, List.filterMap_append,
      List.filterMap_eq_nil_iff.mpr hearlier, List.nil_append,
      List.singleton_append, List.filterMap_cons_some hreply]
    exact ⟨_, rfl⟩
  rw [hsends.now_eq] at htime
  constructor
  case silent =>
    intro hnone
    rw [hreplies] at hnone
    have hlate := hnone _ List.mem_cons_self
    have hperiod : host.now + inquiry.period ≤
        host.now + ((count + 1) * inquiry.period : Nat) := by
      have hle : inquiry.period ≤ (count + 1) * inquiry.period :=
        Nat.le_mul_of_pos_left _ (Nat.succ_pos count)
      exact Int.add_le_add_left (Int.ofNat_le.mpr hle) _
    exact absurd (Int.le_trans hperiod hlate) (Int.not_le.mpr htime)
  case answered =>
    intro time other rest hfirst _
    rw [hreplies] at hfirst
    cases hfirst
    refine ⟨rfl, ?_, ?_⟩
    · rw [← hsends.now_eq]
      rfl
    · rw [Instant.since_div_of_lt htime, sendings_succ, sendings,
        List.range_zero, List.map_nil, ← hsends.sent_eq]
      rfl

theorem settled_of_silent {α : Type} (hperiod : 0 < inquiry.period)
    {conclude : Message → Except StunError α}
    (hundisturbed : inquiry.Undisturbed (count + 1) host)
    (hsends : inquiry.Sends host sent) {earlier unread : List Arrival}
    (hinbox : sent.inbox inquiry.socket = earlier ++ unread)
    (hearlier : ∀ other ∈ earlier,
      inquiry.reply? other = none ∧
        other.time < sent.now + inquiry.period)
    (hunread : ∀ arrival ∈ unread, sent.now + inquiry.period ≤ arrival.time)
    {outcome : Except StunError α} {last : Host σ}
    (hlater :
      let after := UdpExchange.heard sent inquiry.socket unread
        (sent.now + inquiry.period)
      inquiry.Undisturbed count after →
      (∀ arrival ∈ after.inbox inquiry.socket, after.now ≤ arrival.time) →
      inquiry.Settled conclude count after outcome last) :
    inquiry.Settled conclude (count + 1) host outcome last := by
  have hpast : ∀ arrival ∈ earlier,
      arrival.time ≤ sent.now + inquiry.period :=
    fun arrival harrival => Int.le_of_lt (hearlier arrival harrival).2
  obtain ⟨hnext, hincoming⟩ := hundisturbed.next hsends hinbox hpast
  have hnow := Instant.max_add_period sent.now inquiry.period
  have hdue : ∀ arrival ∈
      (UdpExchange.heard sent inquiry.socket unread
        (sent.now + inquiry.period)).inbox inquiry.socket,
      max sent.now (sent.now + inquiry.period) ≤ arrival.time := by
    rw [hnow]
    intro arrival harrival
    exact hunread arrival (by simpa [UdpExchange.heard] using harrival)
  refine Settled.of_next hperiod ?_ ?_ ?_ ?_ (hlater hnext hdue)
  · apply replies_eq_of_incoming hincoming
    intro arrival harrival
    exact (hearlier arrival harrival).1
  · intro reply hreply
    exact le_of_mem_replies
      (Host.le_time_of_mem_resend (Int.le_refl _) hnext.delivers hdue) hreply
  · rw [← hsends.now_eq]
    exact hnow
  · exact hsends.sent_eq

/-- What an exchange comes to depends on nothing but the answers. -/
theorem settled_exchange (hperiod : 0 < inquiry.period)
    (hundisturbed : inquiry.Undisturbed count host)
    (hdue : count = 0 →
      ∀ arrival ∈ host.inbox inquiry.socket, host.now ≤ arrival.time) :
    let run := (UdpExchange.exchange inquiry.socket inquiry.server
      inquiry.change inquiry.period inquiry.request count).run host
    inquiry.Settled .ok count host run.1 run.2 := by
  -- On the attempts that are left, for the host as each of them finds it.  At
  -- the first one the inbox may hold answers from the past; hdue is there for
  -- an exchange without any attempt, which would not look at them.
  induction count generalizing host with
  | zero =>
      intro run
      have hdeadline : host.now + (0 * inquiry.period : Nat) = host.now := by
        rw [Nat.zero_mul]
        exact Int.add_zero _
      constructor
      case silent =>
        intro _
        refine ⟨rfl, hdeadline.symm, ?_⟩
        rw [sendings, List.range_zero, List.map_nil, List.append_nil]
        rfl
      case answered =>
        intro time message later hfirst htime
        rw [hdeadline] at htime
        have hmem : (time, message) ∈ inquiry.replies 0 host := by
          rw [hfirst]
          exact List.mem_cons_self
        have hincoming : ∀ arrival ∈ inquiry.incoming 0 host,
            host.now ≤ arrival.time := hdue rfl
        exact absurd (le_of_mem_replies hincoming hmem)
          (Int.not_le.mpr htime)
  | succ count ih =>
      intro run
      obtain ⟨sent, hsends⟩ := hundisturbed.sends
      have hsifted := inquiry.sifted_listen (sent.now + inquiry.period)
        hsends.ordered hsends.readable
      generalize hinbox : sent.inbox inquiry.socket = arrivals at hsifted
      generalize hlisten : UdpExchange.listen _ _ arrivals = heard at hsifted
      rw [← hinbox] at hlisten
      cases hsifted with
      | answered earlier unread hearlier htime hreply =>
          have hrun : run = _ :=
            UdpExchange.run_exchange_of_answered hsends.runs hlisten count
          rw [hrun]
          exact settled_of_answered hundisturbed hsends hinbox hearlier htime
            hreply
      | silent earlier unread hearlier hunread =>
          have hrun : run = _ :=
            UdpExchange.run_exchange_of_silent hsends.runs hlisten count
          rw [hrun]
          exact settled_of_silent hperiod hundisturbed hsends hinbox hearlier
            hunread fun hnext hdue => ih hnext fun _ => hdue

end Attempts

end Inquiry

end Pinhole
