import Pinhole.Proofs.Stun.Framing
import Pinhole.Proofs.Stun.Traffic

/-!
# Datagrams are judged as a whole

A socket is read with a limit on the length of a datagram, so the reader of
messages is shown no more than the front of one.  Within the limit a request
goes by what the whole datagram is read as: one that is no message is as good as
not received, and an answer ends the exchange.  A message beyond the limit is
not received either, since its front is shorter than its header declares.

The statements are about each moment at which an exchange reads its socket, and
about all that is left to do from there on.
-/

namespace Pinhole

variable {σ : Type}

/-- The host once some arrivals are left to be read at a socket. -/
def Host.leaving (host : Host σ) (socket : Endpoint)
    (later : List Arrival) : Host σ :=
  (Host.setInbox socket later host).2

namespace Inquiry

/-- A moment at which an exchange reads its socket, with the deadline of its
attempt and the number of attempts that would follow. -/
structure Moment (σ : Type) where
  deadline : Instant
  attempts : Nat
  host : Host σ

/-- The same moment after something was read that does not matter. -/
def Moment.leaving (moment : Moment σ) (socket : Endpoint)
    (later : List Arrival) : Moment σ :=
  { moment with host := moment.host.leaving socket later }

def answer? (inquiry : Inquiry) (datagram : Datagram) : Option Message :=
  UdpExchange.answer? inquiry.request inquiry.server inquiry.change datagram

def exchange (inquiry : Inquiry) (attempts : Nat) :
    Attempt (Host σ) Message :=
  UdpExchange.exchange inquiry.socket inquiry.server inquiry.change
    inquiry.period inquiry.request attempts

/-- What follows a wait for an answer. -/
def proceed (inquiry : Inquiry) (attempts : Nat) :
    UdpExchange.Wait → Attempt (Host σ) Message
  | .answered _ message => return message
  | .failed _ | .silent => inquiry.exchange attempts

/-- What is left of an exchange at such a moment. -/
def rest (inquiry : Inquiry) (deadline : Instant) (attempts : Nat) :
    Attempt (Host σ) Message := do
  let wait ← Attempt.always
    (UdpExchange.await inquiry.socket inquiry.answer? deadline)
  inquiry.proceed attempts wait

/-- What follows once the exchange has been ended by an answer. -/
def conclude (inquiry : Inquiry) (answer : Message) :
    Attempt (Host σ) Binding := do
  Attempt.ofProtocol (inquiry.request.check answer)
  let source ← UdpExchange.sourceTowards inquiry.socket inquiry.server
  Attempt.ofProtocol (Binding.ofAnswer source inquiry.server answer)

/-- The moments that an exchange of some attempts comes to. -/
inductive Listens (inquiry : Inquiry) (count : Nat) (start : Host σ) :
    Moment σ → Prop
  | sent {attempts : Nat} {sent : Host σ} (hcount : count = attempts + 1)
      (hsend : Host.send inquiry.datagram start = (.ok (), sent)) :
      Listens inquiry count start
        ⟨sent.now + inquiry.period, attempts, sent⟩
  | passed {moment : Moment σ} {time : Instant} {datagram : Datagram}
      {later : List Arrival} (hlistens : Listens inquiry count start moment)
      (hinbox :
        moment.host.inbox inquiry.socket = ⟨time, some datagram⟩ :: later)
      (htime : time < moment.deadline)
      (hanswer : inquiry.answer? datagram = none) :
      Listens inquiry count start (moment.leaving inquiry.socket later)
  | again {moment : Moment σ} {attempts : Nat} {wait : UdpExchange.Wait}
      {after sent : Host σ} (hlistens : Listens inquiry count start moment)
      (hattempts : moment.attempts = attempts + 1)
      (hawait :
        UdpExchange.await inquiry.socket inquiry.answer? moment.deadline
          moment.host = (wait, after))
      (hwait : ∀ time message, wait ≠ .answered time message)
      (hsend : Host.send inquiry.datagram after = (.ok (), sent)) :
      Listens inquiry count start
        ⟨sent.now + inquiry.period, attempts, sent⟩

section Moments

variable {inquiry : Inquiry} {count attempts : Nat} {host start sent : Host σ}
  {deadline time : Instant} {datagram : Datagram} {later : List Arrival}
  {moment : Moment σ}

theorem run_rest (inquiry : Inquiry) (deadline : Instant) (attempts : Nat)
    (host : Host σ) :
    (inquiry.rest deadline attempts).run host =
      let outcome :=
        UdpExchange.await inquiry.socket inquiry.answer? deadline host
      (inquiry.proceed attempts outcome.1).run outcome.2 := by
  rw [rest, Attempt.run_bind_of_ok (Attempt.run_always _ _)]

theorem run_exchange_of_sent
    (hsend : Host.send inquiry.datagram host = (.ok (), sent)) :
    (inquiry.exchange (attempts + 1)).run host =
      (inquiry.rest (sent.now + inquiry.period) attempts).run sent := by
  have hsent := Attempt.run_ofSystem_of_ok hsend StunError.system
  rw [exchange, UdpExchange.exchange]
  exact Attempt.run_bind_of_ok hsent _

theorem run_rest_of_passed
    (hinbox : host.inbox inquiry.socket = ⟨time, some datagram⟩ :: later)
    (htime : time < deadline) (hanswer : inquiry.answer? datagram = none) :
    (inquiry.rest deadline attempts).run host =
      (inquiry.rest deadline attempts).run
        (host.leaving inquiry.socket later) := by
  have hlater :
      (host.leaving inquiry.socket later).inbox inquiry.socket = later :=
    if_pos rfl
  have hlisten :
      UdpExchange.listen inquiry.answer? deadline
          (host.inbox inquiry.socket) =
        UdpExchange.listen inquiry.answer? deadline later := by
    rw [hinbox, UdpExchange.listen, if_pos htime]
    simp only [hanswer]
  have hheard (unread : List Arrival) (finish : Instant) :
      UdpExchange.heard host inquiry.socket unread finish =
        UdpExchange.heard (host.leaving inquiry.socket later)
          inquiry.socket unread finish := by
    have hinboxes :
        (fun other =>
            if other = inquiry.socket then unread else host.inbox other) =
          fun other =>
            if other = inquiry.socket then unread
            else (host.leaving inquiry.socket later).inbox other := by
      funext other
      simp only [Host.leaving, Host.setInbox]
      split <;> rfl
    simp only [UdpExchange.heard, hinboxes]
    rfl
  rw [run_rest, run_rest, UdpExchange.await_eq, UdpExchange.await_eq,
    hlisten, hlater]
  simp only [hheard]

theorem run_rest_of_answered {message : Message}
    (hinbox : host.inbox inquiry.socket = ⟨time, some datagram⟩ :: later)
    (htime : time < deadline)
    (hanswer : inquiry.answer? datagram = some message) :
    (inquiry.rest deadline attempts).run host =
      (.ok message, UdpExchange.heard host inquiry.socket later time) := by
  have hlisten :
      UdpExchange.listen inquiry.answer? deadline
          (host.inbox inquiry.socket) =
        (.answered time message, later) := by
    rw [hinbox, UdpExchange.listen, if_pos htime]
    simp only [hanswer]
  rw [run_rest, UdpExchange.await_eq, hlisten]
  rfl

theorem run_rest_of_empty (hinbox : host.inbox inquiry.socket = []) :
    (inquiry.rest deadline 0).run host =
      (.error (.timeout inquiry.server),
        UdpExchange.heard host inquiry.socket [] deadline) := by
  rw [run_rest, UdpExchange.await_eq, hinbox]
  rfl

/-- At each of its moments an exchange has done all but what is left then. -/
theorem Listens.run_exchange (hlistens : inquiry.Listens count start moment) :
    (inquiry.exchange count).run start =
      (inquiry.rest moment.deadline moment.attempts).run moment.host := by
  induction hlistens with
  | sent hcount hsend =>
      rw [hcount]
      exact run_exchange_of_sent hsend
  | passed _ hinbox htime hanswer ih =>
      rw [ih]
      exact run_rest_of_passed hinbox htime hanswer
  | @again moment attempts wait after sent _ hattempts hawait hwait hsend
      ih =>
      rw [ih, run_rest, hawait, hattempts]
      cases wait with
      | answered time message => exact absurd rfl (hwait time message)
      | failed _ => exact run_exchange_of_sent hsend
      | silent => exact run_exchange_of_sent hsend

theorem answer?_of_decode_error {fault : ProtocolError}
    (hdecode :
      Message.decode (datagram.bytes.take UdpExchange.receiveLimit) =
        .error fault) :
    inquiry.answer? datagram = none := by
  rw [answer?, UdpExchange.answer?, hdecode]

theorem answer?_of_decode_ok {message : Message}
    (hdecode :
      Message.decode (datagram.bytes.take UdpExchange.receiveLimit) =
        .ok message)
    (haccepted :
      inquiry.change.accepts inquiry.server datagram.sender = true) :
    inquiry.answer? datagram =
      if message.transaction = inquiry.request.transaction then some message
      else none := by
  rw [answer?, UdpExchange.answer?, hdecode]
  simp only [haccepted, and_true]

end Moments

/-! ## What becomes of a datagram -/

/-- What is left of a request at such a moment. -/
def remaining (inquiry : Inquiry) (moment : Moment σ) :
    Attempt (Host σ) Binding := do
  let answer ← inquiry.rest moment.deadline moment.attempts
  inquiry.conclude answer

section Judging

variable (inquiry : Inquiry) (count : Nat) (start : Host σ)
  (outcome : Except StunError Binding × Host σ)

/-- A datagram from the endpoint whose answer is wanted is the next to be
read. -/
structure Reads (moment : Moment σ) (time : Instant) (datagram : Datagram)
    (later : List Arrival) : Prop where
  listens : inquiry.Listens count start moment
  inbox : moment.host.inbox inquiry.socket = ⟨time, some datagram⟩ :: later
  inTime : time < moment.deadline
  accepted : inquiry.change.accepts inquiry.server datagram.sender = true

/-- The next datagram is discarded: the exchange goes on listening to what comes
later, and the outcome is the one it has without the datagram. -/
structure Discards (moment : Moment σ) (later : List Arrival) : Prop where
  goesOn : inquiry.Listens count start (moment.leaving inquiry.socket later)
  unchanged : outcome =
    (inquiry.remaining moment).run (moment.host.leaving inquiry.socket later)

/-- The next datagram is treated as what it is read as: it is discarded if it is
no message, or one of another transaction, and ends the exchange otherwise. -/
def Treats (moment : Moment σ) (time : Instant) (later : List Arrival) :
    Except ProtocolError Message → Prop
  | .error _ => inquiry.Discards count start outcome moment later
  | .ok message =>
      if message.transaction = inquiry.request.transaction then
        outcome = (inquiry.conclude message).run
          (UdpExchange.heard moment.host inquiry.socket later time)
      else inquiry.Discards count start outcome moment later

end Judging

section Judged

variable {inquiry : Inquiry} {count : Nat} {start : Host σ}
  {outcome : Except StunError Binding × Host σ} {moment : Moment σ}
  {time : Instant} {datagram : Datagram} {later : List Arrival}

theorem Reads.discards
    (hreads : inquiry.Reads count start moment time datagram later)
    (houtcome : outcome = (inquiry.remaining moment).run moment.host)
    (hanswer : inquiry.answer? datagram = none) :
    inquiry.Discards count start outcome moment later := by
  refine ⟨.passed hreads.listens hreads.inbox hreads.inTime hanswer, ?_⟩
  rw [houtcome]
  exact Attempt.run_bind_congr
    (run_rest_of_passed hreads.inbox hreads.inTime hanswer) _

/-- What is read of a datagram decides what becomes of it. -/
theorem Reads.treats
    (hreads : inquiry.Reads count start moment time datagram later)
    (houtcome : outcome = (inquiry.remaining moment).run moment.host) :
    inquiry.Treats count start outcome moment time later
      (Message.decode (datagram.bytes.take UdpExchange.receiveLimit)) := by
  cases hdecode :
      Message.decode (datagram.bytes.take UdpExchange.receiveLimit) with
  | error fault =>
      exact hreads.discards houtcome (answer?_of_decode_error hdecode)
  | ok message =>
      have hanswer := answer?_of_decode_ok hdecode hreads.accepted
      simp only [Treats]
      by_cases htransaction :
          message.transaction = inquiry.request.transaction
      · rw [if_pos htransaction] at hanswer ⊢
        rw [houtcome, remaining,
          Attempt.run_bind_of_ok
            (run_rest_of_answered hreads.inbox hreads.inTime hanswer)]
      · rw [if_neg htransaction] at hanswer ⊢
        exact hreads.discards houtcome hanswer

end Judged

end Inquiry

namespace Message

theorem isFrame_of_decode {bytes : Bytes} {message : Message}
    (hdecode : decode bytes = .ok message) : IsFrame bytes := by
  by_cases hshort : bytes.length < 20
  · rw [decode_of_lt hshort] at hdecode
    cases hdecode
  · obtain ⟨type, length, transaction, payload, rfl⟩ :=
      exists_frame (Nat.le_of_not_lt hshort)
    refine ⟨type, length, transaction, payload, rfl, ?_⟩
    by_contra hlength
    rw [decode_frame, if_neg hlength] at hdecode
    cases hdecode

/-- The front of a frame is no message: its header declares more than is
there. -/
theorem IsFrame.decode_take {bytes : Bytes} (hframe : IsFrame bytes)
    {limit : Nat} (hlimit : headerLength ≤ limit)
    (hlong : limit < bytes.length) :
    decode (bytes.take limit) =
      .error
        (.lengthMismatch (bytes.length - headerLength)
          (limit - headerLength)) := by
  obtain ⟨type, length, transaction, payload, rfl, hlength⟩ := hframe
  obtain ⟨count, rfl⟩ := Nat.exists_eq_add_of_le hlimit
  rw [length_frame] at hlong ⊢
  have hcut : (payload.take count).length = count := by
    rw [List.length_take]
    omega
  rw [take_frame, decode_frame, hcut, if_neg (by omega), hlength,
    Nat.add_sub_cancel_left, Nat.add_sub_cancel_left]

/-- Nor is a frame with more bytes behind it. -/
theorem IsFrame.decode_append {bytes more : Bytes} (hframe : IsFrame bytes)
    (hmore : more ≠ []) :
    decode (bytes ++ more) =
      .error
        (.lengthMismatch (bytes.length - headerLength)
          (bytes.length - headerLength + more.length)) := by
  obtain ⟨type, length, transaction, payload, rfl, hlength⟩ := hframe
  have hpositive := List.length_pos_iff.mpr hmore
  rw [frame_append, decode_frame, List.length_append, if_neg (by omega),
    length_frame, Nat.add_sub_cancel_left, hlength]

end Message

namespace UdpExchange

/-- A request treats each datagram that the endpoint asked for an answer sends
during the exchange, if it is among those covered, as what the whole of it is
read as. -/
def JudgesWhole (covered : Datagram → Prop) (socket server : Endpoint)
    (change : Change) (settings : ExchangeSettings) (host : Host σ) : Prop :=
  let inquiry := Inquiry.next socket server change settings host
  let count := settings.retries.toNat + 1
  let start : Host σ := { host with drawn := host.drawn + 1 }
  ∀ moment time datagram later,
    inquiry.Reads count start moment time datagram later →
    covered datagram →
    inquiry.Treats count start
      ((request socket server change settings).run host) moment time later
      (Message.decode datagram.bytes)

theorem run_request_eq (socket server : Endpoint) (change : Change)
    (settings : ExchangeSettings) (host : Host σ) {moment : Inquiry.Moment σ}
    (hlistens :
      (Inquiry.next socket server change settings host).Listens
        (settings.retries.toNat + 1) { host with drawn := host.drawn + 1 }
        moment) :
    (request socket server change settings).run host =
      ((Inquiry.next socket server change settings host).remaining
        moment).run moment.host := by
  have hnew :
      (Host.newRequest change).run host =
        (.ok (Inquiry.next socket server change settings host).request,
          { host with drawn := host.drawn + 1 }) := rfl
  rw [request, Attempt.run_bind_of_ok hnew]
  exact Attempt.run_bind_congr hlistens.run_exchange _

/-- Every datagram is treated as what its first 1500 bytes are read as. -/
theorem request_treats_front (socket server : Endpoint) (change : Change)
    (settings : ExchangeSettings) (host : Host σ)
    {moment : Inquiry.Moment σ} {time : Instant} {datagram : Datagram}
    {later : List Arrival}
    (hreads :
      (Inquiry.next socket server change settings host).Reads
        (settings.retries.toNat + 1) { host with drawn := host.drawn + 1 }
        moment time datagram later) :
    (Inquiry.next socket server change settings host).Treats
      (settings.retries.toNat + 1) { host with drawn := host.drawn + 1 }
      ((request socket server change settings).run host) moment time later
      (Message.decode (datagram.bytes.take receiveLimit)) :=
  hreads.treats (run_request_eq socket server change settings host
    hreads.listens)

/-- Every datagram of up to 1500 bytes is judged as a whole, and every message
of more is discarded. -/
theorem request_judgesWhole (socket server : Endpoint) (change : Change)
    (settings : ExchangeSettings) (host : Host σ) :
    let inquiry := Inquiry.next socket server change settings host
    let count := settings.retries.toNat + 1
    let start : Host σ := { host with drawn := host.drawn + 1 }
    JudgesWhole (fun datagram => datagram.bytes.length ≤ 1500) socket server
        change settings host ∧
      ∀ moment time datagram later,
        inquiry.Reads count start moment time datagram later →
        1500 < datagram.bytes.length →
        ∀ message, Message.decode datagram.bytes = .ok message →
          inquiry.Discards count start
            ((request socket server change settings).run host) moment
            later := by
  intro inquiry count start
  constructor
  · intro moment time datagram later hreads hcovered
    have htreats := request_treats_front _ _ _ _ _ hreads
    rwa [receiveLimit, List.take_of_length_le hcovered] at htreats
  · intro moment time datagram later hreads hlong message hdecode
    have hframe := Message.isFrame_of_decode hdecode
    have htreats := request_treats_front _ _ _ _ _ hreads
    rwa [receiveLimit, hframe.decode_take (by decide) hlong] at htreats

/-! ## Datagrams beyond the limit -/

/-- A network that answers each datagram after a second. -/
def answering (bytes : Bytes) : Surroundings Unit where
  bindFault? := fun _ _ _ => none
  freePort := fun _ => 32768
  transaction := fun _ => Vector.replicate 12 7
  token := fun _ => Vector.replicate 16 0
  addresses := fun _ => .ok []
  route := fun _ => .ok sampleSocket.ip
  deliver := fun _ now _ =>
    .ok ([received (now + Duration.seconds 1) sampleServer bytes], ())
  connect := fun _ now _ _ => (.failed now .networkUnreachable, ())
  converse := fun _ _ _ _ _ => (.silence, ())
  visits := fun _ _ _ _ _ => ([], ())

/-- A response that carries some bytes beside the address. -/
def stuffedAnswer (size : Nat) : Message :=
  ⟨0x0101, sampleTransaction,
    [.ofXorMapped ⟨⟨203, 0, 113, 7⟩, 40000⟩,
      ⟨0x8022, List.replicate size 0⟩]⟩

theorem payloadLength_stuffedAnswer (size : Nat) :
    (stuffedAnswer size).payloadLength = 16 + Bytes.padded size := by
  have hpadded : Bytes.padded 8 = 8 := rfl
  rw [Message.payloadLength_eq_sum]
  simp [stuffedAnswer, Attribute.ofXorMapped, Attribute.addressValue,
    Bytes.ofWord]
  omega

theorem length_encode_stuffedAnswer (size : Nat) :
    (stuffedAnswer size).encode.length = 36 + Bytes.padded size := by
  rw [Message.encode_eq_frame, Message.length_frame,
    Message.length_flatMap_encode, payloadLength_stuffedAnswer,
    Message.headerLength, ← Nat.add_assoc]

/-- A host that is ready to ask once. -/
def asking (bytes : Bytes) : Host Unit :=
  { Host.start (answering bytes) () with drawn := 1 }

/-- The moment at which it waits for the answer. -/
def waiting (bytes : Bytes) : Inquiry.Moment Unit :=
  let sent := (Host.send sampleInquiry.datagram (asking bytes)).2
  ⟨sent.now + sampleInquiry.period, 0, sent⟩

/-- What asking once comes to. -/
def reply (bytes : Bytes) : Except StunError Binding × Host Unit :=
  (request sampleSocket sampleServer .none { retries := 0 }).run
    (Host.start (answering bytes) ())

/-- The datagram that comes back is treated as if it was read so. -/
def TreatsAs (bytes : Bytes) : Except ProtocolError Message → Prop :=
  sampleInquiry.Treats 1 (asking bytes) (reply bytes) (waiting bytes)
    (0 + Duration.seconds 1) []

section Asking

variable {bytes : Bytes}

theorem reads_waiting (bytes : Bytes) :
    sampleInquiry.Reads 1 (asking bytes) (waiting bytes)
      (0 + Duration.seconds 1) ⟨sampleServer, sampleSocket, bytes⟩ [] where
  listens := .sent rfl rfl
  inbox := rfl
  inTime := by
    change (0 + Duration.seconds 1 : Int) < 0 + Duration.seconds 3
    decide
  accepted := by
    change Change.none.accepts sampleServer sampleServer = true
    decide

theorem treatsAs_front (bytes : Bytes) :
    TreatsAs bytes (Message.decode (bytes.take receiveLimit)) :=
  request_treats_front sampleSocket sampleServer .none { retries := 0 }
    (Host.start (answering bytes) ()) (reads_waiting bytes)

theorem JudgesWhole.treatsAs {covered : Datagram → Prop}
    (hwhole : JudgesWhole covered sampleSocket sampleServer .none
      { retries := 0 } (Host.start (answering bytes) ()))
    (hcovered : covered ⟨sampleServer, sampleSocket, bytes⟩) :
    TreatsAs bytes (Message.decode bytes) :=
  hwhole _ _ _ _ (reads_waiting bytes) hcovered

/-- A request that discards what the network brings it comes to nothing. -/
theorem reply_eq_timeout
    (hdiscards :
      sampleInquiry.Discards 1 (asking bytes) (reply bytes) (waiting bytes)
        []) :
    (reply bytes).1 = .error (.timeout sampleServer) := by
  have hrest :
      (sampleInquiry.rest (waiting bytes).deadline 0).run
          ((waiting bytes).host.leaving sampleSocket []) =
        (.error (.timeout sampleServer), _) :=
    Inquiry.run_rest_of_empty rfl
  rw [hdiscards.unchanged, Inquiry.remaining]
  exact congrArg Prod.fst
    (Attempt.run_bind_of_error hrest sampleInquiry.conclude)

theorem TreatsAs.reply_eq_timeout {fault : ProtocolError}
    (htreats : TreatsAs bytes (.error fault)) :
    (reply bytes).1 = .error (.timeout sampleServer) :=
  UdpExchange.reply_eq_timeout htreats

theorem TreatsAs.reply_eq_ok {size : Nat}
    (htreats : TreatsAs bytes (.ok (stuffedAnswer size))) :
    (reply bytes).1 =
      .ok ⟨sampleSocket, sampleServer, some ⟨⟨203, 0, 113, 7⟩, 40000⟩,
        none⟩ := by
  have hip : sampleInquiry.socket.ip ≠ .unspecified := by decide
  have htransaction : (stuffedAnswer size).transaction =
      sampleInquiry.request.transaction := rfl
  have hclass :
      (stuffedAnswer size).messageClass ≠ .errorResponse := by
    change MessageClass.ofType 0x0101 ≠ .errorResponse
    decide
  have hconclusion :
      conclusion sampleSocket sampleServer (stuffedAnswer size) =
        .ok ⟨sampleSocket, sampleServer, some ⟨⟨203, 0, 113, 7⟩, 40000⟩,
          none⟩ := by
    rw [conclusion, if_neg hclass]
    rfl
  rw [TreatsAs, Inquiry.Treats, if_pos htransaction] at htreats
  rw [htreats, ← hconclusion]
  exact congrArg Prod.fst (run_conclusion hip htransaction _)

end Asking

theorem decode_encode_stuffedAnswer {size : Nat} (hsize : size < 65500) :
    Message.decode (stuffedAnswer size).encode =
      .ok (stuffedAnswer size) := by
  apply Message.decode_encode_of_lt
  have hpadded := Bytes.padded_lt size
  rw [payloadLength_stuffedAnswer]
  omega

/-- An answer of 1500 bytes is taken, and one of 1504 is lost. -/
theorem request_judgesWhole_stuffed :
    (reply (stuffedAnswer 1464).encode).1 =
        .ok ⟨sampleSocket, sampleServer, some ⟨⟨203, 0, 113, 7⟩, 40000⟩,
          none⟩ ∧
      (reply (stuffedAnswer 1468).encode).1 =
        .error (.timeout sampleServer) := by
  constructor
  · have hdecode := decode_encode_stuffedAnswer (show 1464 < 65500 by decide)
    have hlength : (stuffedAnswer 1464).encode.length = 1500 :=
      length_encode_stuffedAnswer 1464
    generalize (stuffedAnswer 1464).encode = bytes at hdecode hlength ⊢
    have hwhole :=
      (request_judgesWhole sampleSocket sampleServer .none { retries := 0 }
        (Host.start (answering bytes) ())).1
    have htreats := hwhole.treatsAs (Nat.le_of_eq hlength)
    rw [hdecode] at htreats
    exact htreats.reply_eq_ok
  · have hdecode := decode_encode_stuffedAnswer (show 1468 < 65500 by decide)
    have hlength : (stuffedAnswer 1468).encode.length = 1504 :=
      length_encode_stuffedAnswer 1468
    generalize (stuffedAnswer 1468).encode = bytes at hdecode hlength ⊢
    have hlonger :=
      (request_judgesWhole sampleSocket sampleServer .none { retries := 0 }
        (Host.start (answering bytes) ())).2
    have hlong : 1500 < bytes.length := by omega
    exact reply_eq_timeout
      (hlonger _ _ _ _ (reads_waiting bytes) hlong _ hdecode)

/-- A good answer of 1504 bytes is lost, so not every datagram that a socket
can be sent is judged as a whole. -/
theorem not_forall_judgesWhole :
    ¬∀ (socket server : Endpoint) (change : Change)
        (settings : ExchangeSettings) (host : Host Unit),
        JudgesWhole (fun datagram => datagram.bytes.length ≤ 65507) socket
          server change settings host := by
  intro hwhole
  have hdecode := decode_encode_stuffedAnswer (show 1468 < 65500 by decide)
  have hlength : (stuffedAnswer 1468).encode.length = 1504 :=
    length_encode_stuffedAnswer 1468
  generalize (stuffedAnswer 1468).encode = bytes at hdecode hlength
  have hframe := Message.isFrame_of_decode hdecode
  have htreats :=
    (hwhole _ _ _ _ (Host.start (answering bytes) ())).treatsAs
      (by change bytes.length ≤ 65507; omega)
  have hfront := treatsAs_front bytes
  rw [hdecode] at htreats
  rw [receiveLimit, hframe.decode_take (by decide) (by omega)] at hfront
  have hreply := htreats.reply_eq_ok
  rw [hfront.reply_eq_timeout] at hreply
  cases hreply

/-- Not even every datagram that is no message is judged as a whole: the first
1500 bytes of a longer one may be an answer. -/
theorem not_forall_judgesWhole_no_message :
    ¬∀ (socket server : Endpoint) (change : Change)
        (settings : ExchangeSettings) (host : Host Unit),
        JudgesWhole
          (fun datagram =>
            ∃ fault, Message.decode datagram.bytes = .error fault)
          socket server change settings host := by
  intro hwhole
  have hdecode := decode_encode_stuffedAnswer (show 1464 < 65500 by decide)
  have hlength : (stuffedAnswer 1464).encode.length = 1500 :=
    length_encode_stuffedAnswer 1464
  generalize (stuffedAnswer 1464).encode = bytes at hdecode hlength
  have hframe := Message.isFrame_of_decode hdecode
  have hlonger := hframe.decode_append (List.cons_ne_nil 0 [])
  have htreats :=
    (hwhole _ _ _ _ (Host.start (answering (bytes ++ [0])) ())).treatsAs
      ⟨_, hlonger⟩
  have hfront := treatsAs_front (bytes ++ [0])
  rw [hlonger] at htreats
  rw [receiveLimit, List.take_left' hlength, hdecode] at hfront
  have hreply := hfront.reply_eq_ok
  rw [htreats.reply_eq_timeout] at hreply
  cases hreply

end UdpExchange

end Pinhole
