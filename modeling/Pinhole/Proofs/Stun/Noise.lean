import Pinhole.Proofs.Stun.Inquiry
import Pinhole.Proofs.Stun.RoundTrip

/-!
# An exchange among other traffic

An exchange comes to what the first answer says.  Everything that is no answer
to the request changes neither the outcome nor the time it takes nor what is
sent, whatever it is and however much of it arrives.
-/

namespace Pinhole

namespace Inquiry

variable {σ : Type}

section Answers

variable {inquiry : Inquiry} {host : Host σ} {count : Nat}

theorem Undisturbed.ordered_replies
    (hundisturbed : inquiry.Undisturbed count host) :
    (inquiry.replies count host).Pairwise
      fun first second => first.1 ≤ second.1 := by
  have hordered :=
    Host.chronological_resend hundisturbed.delivers hundisturbed.ordered
  apply List.Pairwise.filterMap _ _ hordered
  rintro first second hle ⟨time, message⟩ hfirst ⟨later, other⟩ hsecond
  rw [← (reply?_eq_some hfirst).1, ← (reply?_eq_some hsecond).1]
  exact hle

/-- Either no answer comes in time, or the first one does. -/
theorem Undisturbed.replies_cases
    (hundisturbed : inquiry.Undisturbed count host) (deadline : Instant) :
    (∀ reply ∈ inquiry.replies count host, deadline ≤ reply.1) ∨
      ∃ time message later,
        inquiry.replies count host = (time, message) :: later ∧
          time < deadline := by
  have hordered := hundisturbed.ordered_replies
  cases hreplies : inquiry.replies count host with
  | nil => simp
  | cons first later =>
      obtain ⟨time, message⟩ := first
      rw [hreplies] at hordered
      have hlater := (List.pairwise_cons.mp hordered).1
      by_cases htime : time < deadline
      · exact Or.inr ⟨time, message, later, rfl, htime⟩
      · left
        have hle : deadline ≤ time := Int.not_lt.mp htime
        refine List.forall_mem_cons.mpr ⟨hle, ?_⟩
        intro reply hreply
        exact Int.le_trans hle (hlater reply hreply)

variable {α β : Type} {conclude : Message → Except StunError α}
  {outcome : Except StunError α} {after : Host σ}

theorem Settled.bind (hsettled : inquiry.Settled conclude count host outcome
      after) (next : α → Except StunError β) :
    inquiry.Settled (fun message => conclude message >>= next) count host
      (outcome >>= next) after := by
  constructor
  case silent =>
    intro hnone
    obtain ⟨rfl, hrest⟩ := hsettled.silent hnone
    exact ⟨rfl, hrest⟩
  case answered =>
    intro time message later hreplies htime
    obtain ⟨rfl, hrest⟩ := hsettled.answered time message later hreplies htime
    exact ⟨rfl, hrest⟩

theorem Settled.transaction_eq (hundisturbed : inquiry.Undisturbed count host)
    {message : Message}
    (hsettled : inquiry.Settled .ok count host (.ok message) after) :
    message.transaction = inquiry.request.transaction := by
  rcases hundisturbed.replies_cases
      (host.now + (count * inquiry.period : Nat)) with
    hnone | ⟨time, answer, later, hreplies, htime⟩
  · cases (hsettled.silent hnone).1
  · have hanswer := (hsettled.answered time answer later hreplies htime).1
    cases hanswer
    have hmem : (time, message) ∈ inquiry.replies count host := by
      rw [hreplies]
      exact List.mem_cons_self
    obtain ⟨arrival, _, hreply⟩ := mem_replies_iff.mp hmem
    exact (reply?_eq_some hreply).2

/-- Two exchanges with the same answers come to the same. -/
theorem Settled.eq_of_replies {τ : Type} {other last : Host τ}
    {repeated : Except StunError α}
    (hundisturbed : inquiry.Undisturbed count host)
    (hsettled : inquiry.Settled conclude count host outcome after)
    (hother : inquiry.Settled conclude count other repeated last)
    (hnow : other.now = host.now)
    (hreplies : inquiry.replies count other = inquiry.replies count host) :
    repeated = outcome ∧ last.now = after.now ∧
      ∃ sendings, after.sent = host.sent ++ sendings ∧
        last.sent = other.sent ++ sendings := by
  rcases hundisturbed.replies_cases
      (host.now + (count * inquiry.period : Nat)) with
    hnone | ⟨time, message, later, hfirst, htime⟩
  · obtain ⟨rfl, hend, hsent⟩ := hsettled.silent hnone
    rw [← hreplies, ← hnow] at hnone
    obtain ⟨rfl, hendAgain, hsentAgain⟩ := hother.silent hnone
    rw [hnow] at hendAgain hsentAgain
    exact ⟨rfl, hendAgain.trans hend.symm, _, hsent, hsentAgain⟩
  · obtain ⟨rfl, hend, hsent⟩ :=
      hsettled.answered time message later hfirst htime
    rw [← hreplies] at hfirst
    rw [← hnow] at htime
    obtain ⟨rfl, hendAgain, hsentAgain⟩ :=
      hother.answered time message later hfirst htime
    rw [hnow] at hendAgain hsentAgain
    exact ⟨rfl, hendAgain.trans hend.symm, _, hsent, hsentAgain⟩

end Answers

end Inquiry

namespace UdpExchange

variable {σ : Type} {socket server : Endpoint} {asked answer : Message}

def conclusion (socket server : Endpoint) (answer : Message) :
    Except StunError Binding :=
  if answer.messageClass = .errorResponse then
    .error (.protocol (.errorResponse answer.type))
  else if answer.type ≠ 0x0101 then
    .error (.protocol (.unexpectedMessageType answer.type))
  else
    match answer.mappedAddress, answer.otherAddress with
    | .error fault, _ => .error (.protocol fault)
    | .ok _, .error fault => .error (.protocol fault)
    | .ok mapped, .ok other => .ok ⟨socket, server, mapped, other⟩

theorem check_of_transaction_eq
    (htransaction : answer.transaction = asked.transaction) :
    asked.check answer =
      if answer.messageClass = .errorResponse then
        .error (.errorResponse answer.type)
      else if answer.type ≠ 0x0101 then
        .error (.unexpectedMessageType answer.type)
      else .ok () := by
  rw [Message.check, if_neg (not_not_intro htransaction)]
  rfl

theorem mapError_ofAnswer (source server : Endpoint) (answer : Message) :
    (Binding.ofAnswer source server answer).mapError StunError.protocol =
      match answer.mappedAddress, answer.otherAddress with
      | .error fault, _ => .error (.protocol fault)
      | .ok _, .error fault => .error (.protocol fault)
      | .ok mapped, .ok other => .ok ⟨source, server, mapped, other⟩ := by
  rw [Binding.ofAnswer]
  cases answer.mappedAddress with
  | error fault => rfl
  | ok mapped => cases answer.otherAddress <;> rfl

theorem run_conclusion (hip : socket.ip ≠ .unspecified)
    (htransaction : answer.transaction = asked.transaction)
    (host : Host σ) :
    (do
      Attempt.ofProtocol (asked.check answer)
      let source ← sourceTowards socket server
      Attempt.ofProtocol (Binding.ofAnswer source server answer) :
        Attempt (Host σ) Binding).run host =
      (conclusion socket server answer, host) := by
  have hsource : (sourceTowards socket server).run host =
      ((.ok socket, host) : Except StunError Endpoint × Host σ) := by
    rw [sourceTowards, if_pos hip]
    rfl
  have hcheck := Attempt.run_ofProtocol (asked.check answer) host
  rw [check_of_transaction_eq htransaction] at hcheck ⊢
  rw [conclusion]
  by_cases hclass : answer.messageClass = .errorResponse
  · simp only [if_pos hclass] at hcheck ⊢
    exact Attempt.run_bind_of_error hcheck _
  · simp only [if_neg hclass] at hcheck ⊢
    by_cases htype : answer.type ≠ 0x0101
    · simp only [if_pos htype] at hcheck ⊢
      exact Attempt.run_bind_of_error hcheck _
    · simp only [if_neg htype] at hcheck ⊢
      have hok : (Attempt.ofProtocol (.ok ())).run host =
          ((.ok (), host) : Except StunError Unit × Host σ) := rfl
      rw [Attempt.run_bind_of_ok hok, Attempt.run_bind_of_ok hsource,
        Attempt.run_ofProtocol, mapError_ofAnswer]

theorem settled_request {host drawn : Host σ} {change : Change}
    {settings : ExchangeSettings}
    (hnew : (Host.newRequest change).run host = (.ok asked, drawn))
    (hip : socket.ip ≠ .unspecified) (hperiod : 0 < settings.timeout)
    (hundisturbed :
      Inquiry.Undisturbed ⟨socket, server, change, asked, settings.timeout⟩
        (settings.retries.toNat + 1) drawn) :
    let run := (request socket server change settings).run host
    Inquiry.Settled ⟨socket, server, change, asked, settings.timeout⟩
      (conclusion socket server) (settings.retries.toNat + 1) drawn run.1
      run.2 := by
  have hsettled := Inquiry.settled_exchange hperiod hundisturbed
    fun hcount => absurd hcount (Nat.succ_ne_zero _)
  dsimp only at hsettled ⊢
  generalize hexchange :
    (exchange socket server change settings.timeout asked
      (settings.retries.toNat + 1)).run drawn = run at hsettled
  obtain ⟨outcome, after⟩ := run
  have hrun : (request socket server change settings).run host =
      (outcome >>= conclusion socket server, after) := by
    rw [request, Attempt.run_bind_of_ok hnew]
    cases outcome with
    | error error => exact Attempt.run_bind_of_error hexchange _
    | ok answer =>
        have htransaction := hsettled.transaction_eq hundisturbed
        rw [Attempt.run_bind_of_ok hexchange]
        exact run_conclusion hip htransaction after
  rw [hrun]
  exact hsettled.bind (conclusion socket server)

/-- An exchange comes to what the first answer says, whatever else arrives. -/
theorem run_request_of_undisturbed {host drawn : Host σ} {change : Change}
    {settings : ExchangeSettings}
    (hnew : (Host.newRequest change).run host = (.ok asked, drawn))
    (hip : socket.ip ≠ .unspecified) (hperiod : 0 < settings.timeout)
    (hundisturbed :
      Inquiry.Undisturbed ⟨socket, server, change, asked, settings.timeout⟩
        (settings.retries.toNat + 1) drawn) :
    let inquiry : Inquiry :=
      ⟨socket, server, change, asked, settings.timeout⟩
    let count := settings.retries.toNat + 1
    let run := (request socket server change settings).run host
    ((inquiry.replies count drawn).Pairwise
        fun first second => first.1 ≤ second.1) ∧
      inquiry.Settled (conclusion socket server) count drawn run.1 run.2 ∧
      ∀ (τ : Type) (other drawnOther : Host τ),
        (Host.newRequest change).run other = (.ok asked, drawnOther) →
        inquiry.Undisturbed count drawnOther →
        drawnOther.now = drawn.now →
        inquiry.replies count drawnOther = inquiry.replies count drawn →
        let again := (request socket server change settings).run other
        again.1 = run.1 ∧ again.2.now = run.2.now ∧
          ∃ sendings, run.2.sent = drawn.sent ++ sendings ∧
            again.2.sent = drawnOther.sent ++ sendings := by
  intro inquiry count run
  have hsettled := settled_request hnew hip hperiod hundisturbed
  refine ⟨hundisturbed.ordered_replies, hsettled, ?_⟩
  intro τ other drawnOther hnewOther hundisturbedOther hnow hreplies
  have hother := settled_request hnewOther hip hperiod hundisturbedOther
  exact hsettled.eq_of_replies hundisturbed hother hnow hreplies

/-! ## A request among noise -/

def sampleSocket : Endpoint := ⟨⟨10, 0, 0, 2⟩, 50000⟩

def sampleServer : Endpoint := ⟨⟨198, 51, 100, 1⟩, 3478⟩

def sampleTransaction : TransactionId :=
  .ofFresh (Vector.replicate 12 7)

def sampleInquiry : Inquiry :=
  ⟨sampleSocket, sampleServer, .none, .request sampleTransaction .none,
    Duration.seconds 3⟩

def sampleAnswer (transaction : TransactionId) : Message :=
  ⟨0x0101, transaction, [.ofXorMapped ⟨⟨203, 0, 113, 7⟩, 40000⟩]⟩

def received (time : Instant) (sender : Endpoint) (bytes : Bytes) : Arrival :=
  ⟨time, some ⟨sender, sampleSocket, bytes⟩⟩

/-- Bytes that are no message, an answer from elsewhere and an answer to
another request. -/
def sampleTraffic : List Arrival :=
  [received (Duration.seconds 1) sampleServer [1, 2, 3],
    received (Duration.seconds 2) ⟨⟨198, 51, 100, 9⟩, 3478⟩
      (sampleAnswer sampleTransaction).encode,
    received (Duration.seconds 2) sampleServer
      (sampleAnswer (.ofFresh (Vector.replicate 12 8))).encode]

/-- A network that loses the first request and answers the second one, with
or without other traffic. -/
def sampleSurroundings (noisy : Bool) : Surroundings Nat where
  bindFault? := fun _ _ _ => none
  freePort := fun _ => 32768
  transaction := fun _ => Vector.replicate 12 7
  token := fun _ => Vector.replicate 16 0
  addresses := fun _ => .ok []
  route := fun _ => .ok sampleSocket.ip
  deliver := fun sent now _ =>
    let answer := received (now + Duration.seconds 1) sampleServer
      (sampleAnswer sampleTransaction).encode
    match sent with
    | 0 => .ok (if noisy then sampleTraffic else [], 1)
    | 1 => .ok ([answer], 2)
    | more => .ok ([], more)
  connect := fun sent now _ _ => (.failed now .networkUnreachable, sent)
  converse := fun sent _ _ _ _ => (.silence, sent)
  visits := fun sent _ _ _ _ => ([], sent)

def sampleHost (noisy : Bool) : Host Nat :=
  { Host.start (sampleSurroundings noisy) 0 with drawn := 1 }

theorem incoming_sample (noisy : Bool) :
    sampleInquiry.incoming 3 (sampleHost noisy) =
      (if noisy then sampleTraffic else []) ++
        [received (Duration.seconds 4) sampleServer
          (sampleAnswer sampleTransaction).encode] := by
  cases noisy <;> rfl

theorem undisturbed_sample (noisy : Bool) :
    sampleInquiry.Undisturbed 3 (sampleHost noisy) := by
  constructor
  case ordered => exact List.Pairwise.nil
  case delivers =>
    intro sent hsent
    match sent with
    | 0 => cases noisy <;> exact ⟨_, _, rfl, by decide⟩
    | 1 => cases noisy <;> exact ⟨_, _, rfl, by decide⟩
    | 2 => cases noisy <;> exact ⟨_, _, rfl, by decide⟩
  case readable =>
    rw [incoming_sample]
    cases noisy <;>
      simp [sampleTraffic, received] <;> decide

theorem decode_sampleAnswer (transaction : TransactionId) :
    Message.decode (sampleAnswer transaction).encode =
      .ok (sampleAnswer transaction) := by
  apply Message.decode_encode_of_lt
  change 12 < 65536
  decide

theorem reply?_received (time : Instant) (sender : Endpoint)
    (transaction : TransactionId) :
    sampleInquiry.reply?
        (received time sender (sampleAnswer transaction).encode) =
      if transaction = sampleTransaction ∧
          Change.none.accepts sampleServer sender then
        some (time, sampleAnswer transaction)
      else none := by
  rw [Inquiry.reply?]
  simp only [received, Option.bind_some, decode_sampleAnswer]
  rfl

theorem replies_sample (noisy : Bool) :
    sampleInquiry.replies 3 (sampleHost noisy) =
      ([(Duration.seconds 4, sampleAnswer sampleTransaction)] :
        List (Instant × Message)) := by
  have hnoise : sampleTraffic.filterMap sampleInquiry.reply? = [] := by
    have hfirst (time : Instant) :
        sampleInquiry.reply? (received time sampleServer [1, 2, 3]) = none :=
      rfl
    simp only [sampleTraffic, List.filterMap_cons, hfirst, reply?_received]
    rfl
  rw [Inquiry.replies, incoming_sample, List.filterMap_append]
  have hanswer : List.filterMap sampleInquiry.reply?
      [received (Duration.seconds 4) sampleServer
        (sampleAnswer sampleTransaction).encode] =
      [(↑(Duration.seconds 4), sampleAnswer sampleTransaction)] := by
    simp only [List.filterMap_cons, reply?_received]
    rfl
  rw [hanswer]
  cases noisy
  · rfl
  · rw [if_pos rfl, hnoise]
    rfl

/-- The traffic changes nothing. -/
theorem run_request_of_undisturbed_traffic :
    let datagram := sampleInquiry.datagram
    let noisy := (request sampleSocket sampleServer .none {}).run
      (Host.start (sampleSurroundings true) 0)
    let quiet := (request sampleSocket sampleServer .none {}).run
      (Host.start (sampleSurroundings false) 0)
    noisy.1 =
        .ok ⟨sampleSocket, sampleServer, some ⟨⟨203, 0, 113, 7⟩, 40000⟩,
          none⟩ ∧
      noisy.2.now = Duration.seconds 4 ∧
      noisy.2.sent =
        ([(0, datagram), (Duration.seconds 3, datagram)] :
          List (Instant × Datagram)) ∧
      quiet.1 = noisy.1 ∧ quiet.2.now = noisy.2.now := by
  intro datagram noisy quiet
  have hnew (noisy : Bool) :
      (Host.newRequest .none).run (Host.start (sampleSurroundings noisy) 0) =
        (.ok sampleInquiry.request, sampleHost noisy) := rfl
  have hip : sampleSocket.ip ≠ .unspecified := by decide
  have hperiod : 0 < ExchangeSettings.timeout {} := by decide
  obtain ⟨_, hsettled, halike⟩ :=
    run_request_of_undisturbed (hnew true) hip hperiod
      (undisturbed_sample true)
  obtain ⟨hresult, hnow, hsent⟩ :=
    hsettled.answered _ _ _ (replies_sample true) (by decide)
  obtain ⟨hsame, hend, _⟩ :=
    halike _ _ _ (hnew false) (undisturbed_sample false) rfl
      ((replies_sample false).trans (replies_sample true).symm)
  exact ⟨hresult.trans rfl, hnow, hsent.trans rfl, hsame, hend⟩

end UdpExchange

end Pinhole
