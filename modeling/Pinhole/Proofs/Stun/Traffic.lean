import Pinhole.Proofs.Stun.Inquiry

/-!
# The traffic of an exchange

What a socket sends and receives while an exchange goes on, with no assumption
on what arrives and when.  Received is what a wait takes out of the inbox, as
far as it is read.  The traffic tells how the exchange ended: the last datagram
received is the first that answers, or the request was sent as often as the
settings allow and none of the datagrams received answers it.
-/

namespace Pinhole

/-- What happens at a socket. -/
inductive Traffic where
  | sent (time : Instant) (datagram : Datagram)
  /-- A datagram that arrived at an instant was read. -/
  | received (time : Instant) (datagram : Datagram)
deriving DecidableEq, Repr

namespace Traffic

def sending? : Traffic → Option (Instant × Datagram)
  | sent time datagram => some (time, datagram)
  | received .. => none

/-- What is read of an arrival. -/
def receipt? (arrival : Arrival) : Option Traffic :=
  arrival.datagram?.map fun datagram =>
    received arrival.time
      { datagram with
        bytes := datagram.bytes.take UdpExchange.receiveLimit }

end Traffic

/-- Sending a datagram succeeds and is noted, or changes nothing. -/
theorem Host.send_cases {σ : Type} (datagram : Datagram) (host : Host σ) :
    (∃ cause, send datagram host = (.error cause, host)) ∨
      ∃ sent, send datagram host = (.ok (), sent) ∧
        sent.sent = host.sent ++ [(host.now, datagram)] := by
  cases hdeliver :
      host.surroundings.deliver host.peers host.now datagram with
  | error cause =>
      left
      refine ⟨cause, ?_⟩
      simp only [send, hdeliver]
  | ok delivered =>
      obtain ⟨arrivals, peers⟩ := delivered
      exact Or.inr ⟨_, send_eq_ok hdeliver, rfl⟩

namespace UdpExchange

/-- The arrivals that a wait takes out of an inbox. -/
def taken (answer? : Datagram → Option Message) (deadline : Instant)
    (arrivals : List Arrival) : List Arrival :=
  arrivals.take
    (arrivals.length - (listen answer? deadline arrivals).2.length)

/-- How a wait parts an inbox. -/
inductive Parted (answer? : Datagram → Option Message)
    (arrivals : List Arrival) : Wait × List Arrival → Prop
  | silent {passed unread : List Arrival}
      (hpassed : ∀ arrival ∈ passed, arrival.datagram?.bind answer? = none)
      (hsplit : arrivals = passed ++ unread) :
      Parted answer? arrivals (.silent, unread)
  | failed {passed unread : List Arrival} {time : Instant}
      (hpassed : ∀ arrival ∈ passed, arrival.datagram?.bind answer? = none)
      (hsplit : arrivals = passed ++ ⟨time, none⟩ :: unread) :
      Parted answer? arrivals (.failed time, unread)
  | answered {passed unread : List Arrival} {time : Instant}
      {datagram : Datagram} {message : Message}
      (hpassed : ∀ arrival ∈ passed, arrival.datagram?.bind answer? = none)
      (hsplit : arrivals = passed ++ ⟨time, some datagram⟩ :: unread)
      (hanswer : answer? datagram = some message) :
      Parted answer? arrivals (.answered time message, unread)

theorem Parted.cons {answer? : Datagram → Option Message} {first : Arrival}
    {later : List Arrival} {outcome : Wait × List Arrival}
    (hfirst : first.datagram?.bind answer? = none)
    (hparted : Parted answer? later outcome) :
    Parted answer? (first :: later) outcome := by
  cases hparted with
  | silent hpassed hsplit =>
      exact .silent (List.forall_mem_cons.mpr ⟨hfirst, hpassed⟩)
        (congrArg (first :: ·) hsplit)
  | failed hpassed hsplit =>
      exact .failed (List.forall_mem_cons.mpr ⟨hfirst, hpassed⟩)
        (congrArg (first :: ·) hsplit)
  | answered hpassed hsplit hanswer =>
      exact .answered (List.forall_mem_cons.mpr ⟨hfirst, hpassed⟩)
        (congrArg (first :: ·) hsplit) hanswer

theorem parted_listen (answer? : Datagram → Option Message)
    (deadline : Instant) (arrivals : List Arrival) :
    Parted answer? arrivals (listen answer? deadline arrivals) := by
  induction arrivals with
  | nil => exact .silent (List.forall_mem_nil _) rfl
  | cons first later ih =>
      obtain ⟨time, datagram?⟩ := first
      unfold listen
      by_cases htime : time < deadline
      · rw [if_pos htime]
        cases datagram? with
        | none => exact .failed (List.forall_mem_nil _) rfl
        | some datagram =>
            cases hanswer : answer? datagram with
            | some message =>
                simp only [hanswer]
                exact .answered (List.forall_mem_nil _) rfl hanswer
            | none =>
                simp only [hanswer]
                exact ih.cons hanswer
      · rw [if_neg htime]
        exact .silent (List.forall_mem_nil _) rfl

theorem taken_eq {answer? : Datagram → Option Message} {deadline : Instant}
    {arrivals front unread : List Arrival} {wait : Wait}
    (hlisten : listen answer? deadline arrivals = (wait, unread))
    (hsplit : arrivals = front ++ unread) :
    taken answer? deadline arrivals = front := by
  rw [taken, hlisten, hsplit, List.length_append, Nat.add_sub_cancel,
    List.take_left]

end UdpExchange

namespace Inquiry

variable {σ : Type}

/-- A datagram that was received answers with a message. -/
structure Answers (inquiry : Inquiry) (datagram : Datagram)
    (message : Message) : Prop where
  decodes : Message.decode datagram.bytes = .ok message
  transaction : message.transaction = inquiry.request.transaction
  ip : datagram.sender.ip ≠ inquiry.server.ip ↔ inquiry.change.ip = true
  port : datagram.sender.port ≠ inquiry.server.port ↔
    inquiry.change.port = true

theorem answer?_eq_some_iff (inquiry : Inquiry) (datagram : Datagram)
    (message : Message) :
    UdpExchange.answer? inquiry.request inquiry.server inquiry.change
        datagram = some message ↔
      inquiry.Answers
        { datagram with
          bytes := datagram.bytes.take UdpExchange.receiveLimit }
        message := by
  have haccepts :
      inquiry.change.accepts inquiry.server datagram.sender = true ↔
        (datagram.sender.ip ≠ inquiry.server.ip ↔
            inquiry.change.ip = true) ∧
          (datagram.sender.port ≠ inquiry.server.port ↔
            inquiry.change.port = true) := by
    cases hip : inquiry.change.ip <;> cases hport : inquiry.change.port <;>
      simp [Change.accepts, hip, hport]
  unfold UdpExchange.answer?
  cases hdecode :
      Message.decode (datagram.bytes.take UdpExchange.receiveLimit) with
  | error fault =>
      constructor
      · intro hsome
        cases hsome
      · intro hanswers
        cases hdecode.symm.trans hanswers.decodes
  | ok other =>
      simp only [haccepts, Option.ite_none_right_eq_some, Option.some.injEq]
      constructor
      · rintro ⟨⟨htransaction, hip, hport⟩, rfl⟩
        exact ⟨hdecode, htransaction, hip, hport⟩
      · intro hanswers
        obtain rfl : other = message :=
          Except.ok.inj (hdecode.symm.trans hanswers.decodes)
        exact ⟨⟨hanswers.transaction, hanswers.ip, hanswers.port⟩, rfl⟩

/-- What the socket sends and receives in the course of an exchange. -/
def traffic (inquiry : Inquiry) : (attempts : Nat) → Host σ → List Traffic
  | 0, _ => []
  | attempts + 1, host =>
      match Host.send inquiry.datagram host with
      | (.error _, _) => []
      | (.ok (), sent) =>
          let answer? := UdpExchange.answer? inquiry.request inquiry.server
            inquiry.change
          let deadline := sent.now + inquiry.period
          let heard := UdpExchange.taken answer? deadline
            (sent.inbox inquiry.socket)
          .sent host.now inquiry.datagram ::
            (heard.filterMap Traffic.receipt? ++
              match UdpExchange.await inquiry.socket answer? deadline sent with
              | (.answered .., _) => []
              | (_, after) => inquiry.traffic attempts after)

/-- Datagrams were received that do not answer. -/
def Unheeded (inquiry : Inquiry) (heard : List Traffic) : Prop :=
  ∀ item ∈ heard, ∃ time datagram, item = .received time datagram ∧
    ∀ message, ¬ inquiry.Answers datagram message

/-- The traffic on the way to each outcome of an exchange. -/
inductive Course (inquiry : Inquiry) :
    Nat → List Traffic → Except StunError Message → Prop
  | exhausted : Course inquiry 0 [] (.error (.timeout inquiry.server))
  | unsent (attempts : Nat) (cause : SystemError) :
      Course inquiry (attempts + 1) [] (.error (.system cause))
  | answered (attempts : Nat) (time : Instant) {heard : List Traffic}
      (hheard : inquiry.Unheeded heard) (arrived : Instant)
      {datagram : Datagram} {message : Message}
      (hanswers : inquiry.Answers datagram message) :
      Course inquiry (attempts + 1)
        (.sent time inquiry.datagram ::
          (heard ++ [.received arrived datagram]))
        (.ok message)
  | again {attempts : Nat} (time : Instant) {heard later : List Traffic}
      {outcome : Except StunError Message}
      (hheard : inquiry.Unheeded heard)
      (hlater : Course inquiry attempts later outcome) :
      Course inquiry (attempts + 1)
        (.sent time inquiry.datagram :: (heard ++ later)) outcome

theorem unheeded_receipts (inquiry : Inquiry) {passed : List Arrival}
    (hpassed : ∀ arrival ∈ passed,
      arrival.datagram?.bind
        (UdpExchange.answer? inquiry.request inquiry.server inquiry.change) =
          none) :
    inquiry.Unheeded (passed.filterMap Traffic.receipt?) := by
  intro item hitem
  obtain ⟨arrival, harrival, hreceipt⟩ := List.mem_filterMap.mp hitem
  obtain ⟨datagram, hdatagram, rfl⟩ := Option.map_eq_some_iff.mp hreceipt
  refine ⟨_, _, rfl, ?_⟩
  intro message hanswers
  have hnone := hpassed arrival harrival
  rw [hdatagram, Option.bind_some,
    (inquiry.answer?_eq_some_iff datagram message).mpr hanswers] at hnone
  cases hnone

theorem sending?_of_mem_receipts {arrivals : List Arrival} {item : Traffic}
    (hitem : item ∈ arrivals.filterMap Traffic.receipt?) :
    item.sending? = none := by
  obtain ⟨arrival, _, hreceipt⟩ := List.mem_filterMap.mp hitem
  obtain ⟨datagram, _, rfl⟩ := Option.map_eq_some_iff.mp hreceipt
  rfl

theorem Unheeded.sending? {inquiry : Inquiry} {heard : List Traffic}
    (hheard : inquiry.Unheeded heard) {item : Traffic} (hitem : item ∈ heard) :
    item.sending? = none := by
  obtain ⟨time, datagram, rfl, _⟩ := hheard item hitem
  rfl

theorem sendings_cons {heard : List Traffic}
    (hheard : ∀ item ∈ heard, item.sending? = none) (time : Instant)
    (datagram : Datagram) (later : List Traffic) :
    (Traffic.sent time datagram :: (heard ++ later)).filterMap
        Traffic.sending? =
      (time, datagram) :: later.filterMap Traffic.sending? := by
  have hfirst :
      (Traffic.sent time datagram).sending? = some (time, datagram) := rfl
  rw [List.filterMap_cons_some hfirst, List.filterMap_append,
    List.filterMap_eq_nil_iff.mpr hheard, List.nil_append]

/-- The traffic of an exchange tells how it ended, and its sendings are all
that the host sent meanwhile. -/
theorem course_exchange (inquiry : Inquiry) (attempts : Nat) (host : Host σ) :
    ∃ outcome after,
      (UdpExchange.exchange inquiry.socket inquiry.server inquiry.change
          inquiry.period inquiry.request attempts).run host =
        (outcome, after) ∧
        after.sent = host.sent ++
          (inquiry.traffic attempts host).filterMap Traffic.sending? ∧
        inquiry.Course attempts (inquiry.traffic attempts host) outcome := by
  induction attempts generalizing host with
  | zero => exact ⟨_, host, rfl, (List.append_nil _).symm, .exhausted⟩
  | succ attempts ih =>
      rw [traffic]
      rcases Host.send_cases inquiry.datagram host with
        ⟨cause, hsend⟩ | ⟨sent, hsend, hgrows⟩
      · refine ⟨.error (.system cause), host, ?_, ?_, ?_⟩
        · rw [UdpExchange.exchange]
          exact Attempt.run_bind_of_error
            (Attempt.run_ofSystem_of_error hsend StunError.system) _
        · rw [hsend]
          exact (List.append_nil _).symm
        · rw [hsend]
          exact .unsent attempts cause
      · have hparted := UdpExchange.parted_listen
          (UdpExchange.answer? inquiry.request inquiry.server inquiry.change)
          (sent.now + inquiry.period) (sent.inbox inquiry.socket)
        generalize hlisten : UdpExchange.listen _ _ _ = outcome at hparted
        simp only [hsend, UdpExchange.run_exchange_succ hsend,
          UdpExchange.await_eq, hlisten,
          sendings_cons fun _ => sending?_of_mem_receipts]
        -- The last two kinds of waits end the attempt without an answer.
        cases hparted with
        | answered hpassed hsplit hanswer =>
            refine ⟨_, _, rfl, hgrows, ?_⟩
            rw [List.append_cons] at hsplit
            rw [UdpExchange.taken_eq hlisten hsplit, List.filterMap_append,
              List.append_nil]
            exact .answered attempts host.now
              (inquiry.unheeded_receipts hpassed) _
              ((inquiry.answer?_eq_some_iff _ _).mp hanswer)
        | @failed passed unread time hpassed hsplit =>
            have hnothing :
                [(⟨time, none⟩ : Arrival)].filterMap Traffic.receipt? = [] :=
              rfl
            obtain ⟨outcome, after, hrun, hlater, hcourse⟩ :=
              ih (UdpExchange.heard sent inquiry.socket _ _)
            refine ⟨outcome, after, hrun, ?_, ?_⟩
            · rw [hlater, List.append_cons, ← hgrows]
              rfl
            · rw [List.append_cons] at hsplit
              rw [UdpExchange.taken_eq hlisten hsplit, List.filterMap_append,
                hnothing, List.append_nil]
              exact .again host.now (inquiry.unheeded_receipts hpassed)
                hcourse
        | silent hpassed hsplit =>
            obtain ⟨outcome, after, hrun, hlater, hcourse⟩ :=
              ih (UdpExchange.heard sent inquiry.socket _ _)
            refine ⟨outcome, after, hrun, ?_, ?_⟩
            · rw [hlater, List.append_cons, ← hgrows]
              rfl
            · rw [UdpExchange.taken_eq hlisten hsplit]
              exact .again host.now (inquiry.unheeded_receipts hpassed)
                hcourse

namespace Course

variable {inquiry : Inquiry} {attempts : Nat} {traffic : List Traffic}
  {outcome : Except StunError Message}

theorem length_sendings_le (hcourse : inquiry.Course attempts traffic outcome) :
    (traffic.filterMap Traffic.sending?).length ≤ attempts := by
  induction hcourse with
  | exhausted => exact Nat.le_refl _
  | unsent attempts cause => exact Nat.zero_le _
  | answered attempts time hheard arrived hanswers =>
      rw [sendings_cons fun _ => hheard.sending?]
      exact Nat.succ_le_succ (Nat.zero_le attempts)
  | again time hheard hlater ih =>
      rw [sendings_cons fun _ => hheard.sending?]
      exact Nat.succ_le_succ ih

/-- Nothing but the request is sent. -/
theorem datagram_eq (hcourse : inquiry.Course attempts traffic outcome)
    {time : Instant} {datagram : Datagram}
    (hmem : (time, datagram) ∈ traffic.filterMap Traffic.sending?) :
    datagram = inquiry.datagram := by
  induction hcourse with
  | exhausted => cases hmem
  | unsent attempts cause => cases hmem
  | answered attempts start hheard arrived hanswers =>
      rw [sendings_cons fun _ => hheard.sending?] at hmem
      rcases List.mem_cons.mp hmem with hfirst | hlater
      · exact congrArg Prod.snd hfirst
      · cases hlater
  | again start hheard hlater ih =>
      rw [sendings_cons fun _ => hheard.sending?] at hmem
      rcases List.mem_cons.mp hmem with hfirst | hmem
      · exact congrArg Prod.snd hfirst
      · exact ih hmem

/-- The answer is the last that is received, and the request was sent before
it. -/
theorem ends_of_ok (hcourse : inquiry.Course attempts traffic outcome)
    {message : Message} (hok : outcome = .ok message) :
    ∃ start earlier arrived datagram,
      traffic = .sent start inquiry.datagram ::
        (earlier ++ [.received arrived datagram]) ∧
        inquiry.Answers datagram message := by
  induction hcourse with
  | exhausted => cases hok
  | unsent attempts cause => cases hok
  | answered attempts start hheard arrived hanswers =>
      cases hok
      exact ⟨start, _, arrived, _, rfl, hanswers⟩
  | @again attempts start heard later outcome hheard hlater ih =>
      obtain ⟨again, earlier, arrived, datagram, rfl, hanswers⟩ := ih hok
      refine ⟨start, heard ++ .sent again inquiry.datagram :: earlier, arrived,
        datagram, ?_, hanswers⟩
      rw [List.append_assoc, List.cons_append]

/-- An exchange that runs out of time has sent its request as often as it could
and has received no answer. -/
theorem unanswered_of_timeout
    (hcourse : inquiry.Course attempts traffic outcome) {server : Endpoint}
    (htimeout : outcome = .error (.timeout server)) :
    (traffic.filterMap Traffic.sending?).length = attempts ∧
      ∀ time datagram, .received time datagram ∈ traffic →
        ∀ message, ¬ inquiry.Answers datagram message := by
  induction hcourse with
  | exhausted => simp
  | unsent attempts cause => cases htimeout
  | answered attempts start hheard arrived hanswers => cases htimeout
  | again start hheard hlater ih =>
      obtain ⟨hlength, hnone⟩ := ih htimeout
      refine ⟨?_, ?_⟩
      · rw [sendings_cons fun _ => hheard.sending?, List.length_cons, hlength]
      · intro time datagram hmem
        rcases List.mem_cons.mp hmem with hfirst | hmem
        · cases hfirst
        rcases List.mem_append.mp hmem with hpassed | hmem
        · obtain ⟨_, _, hreceived, hunanswered⟩ := hheard _ hpassed
          cases hreceived
          exact hunanswered
        · exact hnone time datagram hmem

end Course

/-- The exchange that a host would start next. -/
def next (socket server : Endpoint) (change : Change)
    (settings : ExchangeSettings) (host : Host σ) : Inquiry :=
  ⟨socket, server, change,
    .request (.ofFresh (host.surroundings.transaction host.drawn)) change,
    settings.timeout⟩

end Inquiry

namespace UdpExchange

variable {σ : Type}

/-- What the socket sends and receives during a request. -/
def requestTraffic (socket server : Endpoint) (change : Change)
    (settings : ExchangeSettings) (host : Host σ) : List Traffic :=
  (Inquiry.next socket server change settings host).traffic
    (settings.retries.toNat + 1) { host with drawn := host.drawn + 1 }

/-- What an answer tells changes nothing, is a binding only if the answer is a
success response, and is no timeout. -/
theorem run_concluding (socket server : Endpoint) (asked answer : Message)
    (host : Host σ) :
    ∃ result : Except StunError Binding,
      (do
        Attempt.ofProtocol (asked.check answer)
        let source ← sourceTowards socket server
        Attempt.ofProtocol (Binding.ofAnswer source server answer) :
          Attempt (Host σ) Binding).run host = (result, host) ∧
        (∀ binding, result = .ok binding →
          answer.type = Message.bindingResponse) ∧
        ∀ silent, result ≠ .error (.timeout silent) := by
  have hnoTimeout {α : Type} (result : Except ProtocolError α)
      (silent : Endpoint) :
      result.mapError StunError.protocol ≠ .error (.timeout silent) := by
    cases result <;> simp [Except.mapError]
  obtain ⟨source, hsource, hfault⟩ : ∃ source : Except StunError Endpoint,
      (sourceTowards socket server).run host = (source, host) ∧
        ∀ silent, source ≠ .error (.timeout silent) := by
    rw [sourceTowards]
    by_cases hip : socket.ip ≠ .unspecified
    · rw [if_pos hip]
      exact ⟨.ok socket, rfl, by simp⟩
    · rw [if_neg hip, Attempt.run_bind_of_ok (Attempt.run_get host)]
      cases host.surroundings.route server with
      | ok ip => exact ⟨.ok ⟨ip, socket.port⟩, rfl, by simp⟩
      | error cause => exact ⟨.error (.system cause), rfl, by simp⟩
  have hcheck := Attempt.run_ofProtocol (asked.check answer) host
  cases hresult : asked.check answer with
  | error fault =>
      rw [hresult] at hcheck
      exact ⟨.error (.protocol fault), Attempt.run_bind_of_error hcheck _,
        by simp, by simp⟩
  | ok accepted =>
      rw [hresult] at hcheck
      have htype : answer.type = Message.bindingResponse := by
        by_contra htype
        simp only [Message.check, if_pos htype] at hresult
        split at hresult
        · cases hresult
        · split at hresult <;> cases hresult
      rw [Attempt.run_bind_of_ok hcheck]
      cases source with
      | error error =>
          refine ⟨.error error, Attempt.run_bind_of_error hsource _,
            fun _ _ => htype, ?_⟩
          intro silent htimeout
          cases htimeout
          exact hfault silent rfl
      | ok source =>
          refine ⟨_, Attempt.run_bind_of_ok hsource _, fun _ _ => htype, ?_⟩
          exact hnoTimeout _

/-- The traffic of a request tells whether it was answered. -/
theorem course_request (socket server : Endpoint) (change : Change)
    (settings : ExchangeSettings) (host : Host σ) :
    ∃ outcome after heard,
      (request socket server change settings).run host = (outcome, after) ∧
        after.sent = host.sent ++
          (requestTraffic socket server change settings host).filterMap
            Traffic.sending? ∧
        (Inquiry.next socket server change settings host).Course
          (settings.retries.toNat + 1)
          (requestTraffic socket server change settings host) heard ∧
        (∀ binding, outcome = .ok binding → ∃ message,
          heard = .ok message ∧ message.type = Message.bindingResponse) ∧
        ∀ silent, outcome = .error (.timeout silent) →
          heard = .error (.timeout silent) := by
  let inquiry := Inquiry.next socket server change settings host
  have hnew :
      (Host.newRequest change).run host =
        (.ok inquiry.request, { host with drawn := host.drawn + 1 }) := rfl
  obtain ⟨heard, after, hexchange, hsent, hcourse⟩ :=
    inquiry.course_exchange (settings.retries.toNat + 1)
      { host with drawn := host.drawn + 1 }
  rw [request, Attempt.run_bind_of_ok hnew]
  cases heard with
  | error error =>
      refine ⟨.error error, after, .error error,
        Attempt.run_bind_of_error hexchange _, hsent, hcourse, by simp, ?_⟩
      intro silent htimeout
      cases htimeout
      rfl
  | ok answer =>
      obtain ⟨result, hresult, htype, hnoTimeout⟩ :=
        run_concluding socket server inquiry.request answer after
      refine ⟨result, after, .ok answer, ?_, hsent, hcourse, ?_, ?_⟩
      · exact (Attempt.run_bind_of_ok hexchange _).trans hresult
      · intro binding hok
        exact ⟨answer, rfl, htype binding hok⟩
      · intro silent htimeout
        exact absurd htimeout (hnoTimeout silent)

end UdpExchange

end Pinhole
