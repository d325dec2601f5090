import Pinhole.Proofs.Stun.Attempt
import Pinhole.Proofs.Stun.Grammar
import Pinhole.Proofs.Stun.Noise
import Pinhole.Stun.TcpExchange

/-!
# An answer on a stream

An exchange over TCP depends on nothing of the server's stream but the first
message in it: not on the pieces in which it arrives, nor on when each of them
does, as long as all of it is there in time, nor on what follows it.

The stream is looked at as the bytes that have arrived before the deadline.  A
message is found in them as soon as it is there, and then stays found; this is
all that reading in pieces needs.
-/

namespace Pinhole

namespace Incoming

/-- The bytes that have arrived before an instant.  Nothing overtakes a piece
that is late. -/
def arrived (incoming : Incoming) (deadline : Instant) : Bytes :=
  (incoming.pieces.takeWhile fun piece => piece.1 < deadline).flatMap
    Prod.snd

/-- How the stream has ended before an instant, if it has.  The end is seen
behind the last piece only. -/
def ended? (incoming : Incoming) (deadline : Instant) :
    Option (Instant × StreamEnd) :=
  if ∀ piece ∈ incoming.pieces, piece.1 < deadline then
    incoming.ending?.filter fun ending => ending.1 < deadline
  else none

variable {α : Type} {complete? : Bytes → Option α} {deadline : Instant}
  {ending? : Option (Instant × StreamEnd)} {got : Bytes}
  {pieces : List (Instant × Bytes)} {result : α}

theorem arrived_cons_of_lt {time : Instant} (htime : time < deadline)
    (bytes : Bytes) :
    arrived ⟨(time, bytes) :: pieces, ending?⟩ deadline =
      bytes ++ arrived ⟨pieces, ending?⟩ deadline := by
  simp [arrived, htime]

theorem arrived_cons_of_le {time : Instant} (htime : deadline ≤ time)
    (bytes : Bytes) :
    arrived ⟨(time, bytes) :: pieces, ending?⟩ deadline = [] := by
  simp [arrived, Int.not_lt.mpr htime]

/-- More bytes do not change what was found in the first ones. -/
def Persistent (complete? : Bytes → Option α) : Prop :=
  ∀ got more result, complete? got = some result →
    complete? (got ++ more) = some result

theorem readPieces_of_complete (hpersistent : Persistent complete?)
    (hgot : complete? got = none)
    (hcomplete :
      complete? (got ++ arrived ⟨pieces, ending?⟩ deadline) = some result) :
    ∃ time, time < deadline ∧
      readPieces complete? deadline ending? got pieces =
        .complete time result := by
  induction pieces generalizing got with
  | nil =>
      change complete? (got ++ []) = some result at hcomplete
      rw [List.append_nil, hgot] at hcomplete
      cases hcomplete
  | cons first later ih =>
      obtain ⟨time, bytes⟩ := first
      by_cases htime : time < deadline
      · rw [arrived_cons_of_lt htime, ← List.append_assoc] at hcomplete
        rw [readPieces, if_pos htime]
        cases hfound : complete? (got ++ bytes) with
        | none => exact ih hfound hcomplete
        | some found =>
            rw [hpersistent _ _ _ hfound, Option.some.injEq] at hcomplete
            rw [← hcomplete]
            exact ⟨time, htime, rfl⟩
      · rw [arrived_cons_of_le (Int.not_lt.mp htime), List.append_nil,
          hgot] at hcomplete
        cases hcomplete

theorem readPieces_of_incomplete (hpersistent : Persistent complete?)
    (hincomplete :
      complete? (got ++ arrived ⟨pieces, ending?⟩ deadline) = none) :
    readPieces complete? deadline ending? got pieces =
      match ended? ⟨pieces, ending?⟩ deadline with
      | none => .late
      | some (time, how) => .ended time how := by
  induction pieces generalizing got with
  | nil =>
      cases ending? with
      | none => rfl
      | some ending =>
          by_cases htime : ending.1 < deadline <;>
            simp [readPieces, ended?, Option.filter_some, htime]
  | cons first later ih =>
      obtain ⟨time, bytes⟩ := first
      by_cases htime : time < deadline
      · rw [arrived_cons_of_lt htime, ← List.append_assoc] at hincomplete
        have hnone : complete? (got ++ bytes) = none := by
          cases hfound : complete? (got ++ bytes) with
          | none => rfl
          | some found =>
              rw [hpersistent _ _ _ hfound] at hincomplete
              cases hincomplete
        have hall :
            (∀ piece ∈ (time, bytes) :: later, piece.1 < deadline) ↔
              ∀ piece ∈ later, piece.1 < deadline := by
          simp [htime]
        have hended :
            ended? ⟨(time, bytes) :: later, ending?⟩ deadline =
              ended? ⟨later, ending?⟩ deadline := by
          simp only [ended?, hall]
        rw [readPieces, if_pos htime, hnone, hended]
        exact ih hincomplete
      · have hended :
            ended? ⟨(time, bytes) :: later, ending?⟩ deadline = none := by
          simp [ended?, htime]
        rw [readPieces, if_neg htime, hended]

theorem read_of_complete {incoming : Incoming}
    (hpersistent : Persistent complete?) (hempty : complete? [] = none)
    (hcomplete : complete? (incoming.arrived deadline) = some result) :
    ∃ time, time < deadline ∧
      incoming.read complete? deadline = .complete time result :=
  readPieces_of_complete hpersistent hempty hcomplete

theorem read_of_incomplete {incoming : Incoming}
    (hpersistent : Persistent complete?)
    (hincomplete : complete? (incoming.arrived deadline) = none) :
    incoming.read complete? deadline =
      match incoming.ended? deadline with
      | none => .late
      | some (time, how) => .ended time how :=
  readPieces_of_incomplete hpersistent hincomplete

theorem lt_of_ended?_eq_some {incoming : Incoming} {time : Instant}
    {how : StreamEnd} (hended : incoming.ended? deadline = some (time, how)) :
    time < deadline := by
  unfold ended? at hended
  split at hended
  · simpa using (Option.filter_eq_some_iff.mp hended).2
  · cases hended

end Incoming

/-! ## The first message of a stream -/

namespace Message

/-- A header and as many bytes as it declares. -/
def IsFrame (bytes : Bytes) : Prop :=
  ∃ type length transaction payload,
    bytes = frame type length transaction payload ∧
      length.toNat = payload.length

theorem isFrame_encode {message : Message}
    (hpayload : message.payloadLength < 65536) : IsFrame message.encode := by
  refine ⟨_, _, _, _, encode_eq_frame message, ?_⟩
  rw [Bytes.toNat_ofNat_of_lt hpayload, length_flatMap_encode]

theorem frame_append (type length : UInt16) (transaction : TransactionId)
    (payload more : Bytes) :
    frame type length transaction payload ++ more =
      frame type length transaction (payload ++ more) := by
  simp only [frame, List.append_assoc]

/-- What is wrong with a frame is wrong with the items behind its header. -/
theorem fault_of_decode_eq_error {bytes : Bytes} {fault : ProtocolError}
    (hframe : IsFrame bytes) (hdecode : decode bytes = .error fault) :
    (∃ remaining, fault = .malformedAttributes remaining) ∨
      ∃ type, fault = .truncatedAttribute type := by
  obtain ⟨type, length, transaction, payload, rfl, hlength⟩ := hframe
  obtain ⟨items, left, fault?, hreading⟩ := exists_reading payload
  rw [decode_frame, if_pos hlength, hreading.readAttributes_eq] at hdecode
  obtain ⟨_, hstop⟩ := hreading.split
  cases hstop with
  | covered => cases hdecode
  | scant hsome hfew =>
      cases hdecode
      exact Or.inl ⟨_, rfl⟩
  | short hshort =>
      cases hdecode
      exact Or.inr ⟨_, rfl⟩

end Message

namespace TcpExchange

open Message

theorem frame?_of_lt {stream : Bytes} (hshort : stream.length < 20) :
    frame? stream = none := by
  have hheader : Incoming.exactly? headerLength stream = none := by
    unfold Incoming.exactly? headerLength
    rw [if_neg]
    rw [List.length_take]
    omega
  rw [frame?, hheader]
  rfl

theorem frame?_frame (type length : UInt16) (transaction : TransactionId)
    (payload : Bytes) :
    frame? (frame type length transaction payload) =
      if length.toNat ≤ payload.length then
        some (frame type length transaction (payload.take length.toNat))
      else none := by
  have hheader :
      Incoming.exactly? headerLength (frame type length transaction payload) =
        some (frame type length transaction []) := by
    have hnone := take_frame type length transaction payload 0
    rw [Nat.add_zero, List.take_zero] at hnone
    rw [Incoming.exactly?, hnone, if_pos]
    rw [length_frame, List.length_nil, Nat.add_zero]
  have hlength :
      (frame type length transaction (payload.take length.toNat)).length =
          headerLength + length.toNat ↔
        length.toNat ≤ payload.length := by
    rw [length_frame, List.length_take]
    omega
  rw [frame?, hheader]
  simp only [Option.bind_eq_bind, Option.bind_some, declaredLength_frame,
    Incoming.exactly?, take_frame, hlength]

theorem frame?_eq_some_iff {stream found : Bytes} :
    frame? stream = some found ↔ found <+: stream ∧ IsFrame found := by
  constructor
  · intro hfound
    by_cases hshort : stream.length < 20
    · rw [frame?_of_lt hshort] at hfound
      cases hfound
    · obtain ⟨type, length, transaction, payload, rfl⟩ :=
        exists_frame (Nat.le_of_not_lt hshort)
      rw [frame?_frame] at hfound
      by_cases henough : length.toNat ≤ payload.length
      · rw [if_pos henough, Option.some.injEq] at hfound
        rw [← hfound]
        refine ⟨⟨payload.drop length.toNat, ?_⟩, _, _, _, _, rfl, ?_⟩
        · rw [frame_append, List.take_append_drop]
        · rw [List.length_take_of_le henough]
      · rw [if_neg henough] at hfound
        cases hfound
  · rintro ⟨⟨more, rfl⟩, type, length, transaction, payload, rfl, hlength⟩
    have henough : length.toNat ≤ (payload ++ more).length := by
      rw [List.length_append]
      omega
    rw [frame_append, frame?_frame, if_pos henough,
      List.take_left' hlength.symm]

theorem persistent_frame? : Incoming.Persistent frame? := by
  intro got more found hfound
  rw [frame?_eq_some_iff] at hfound ⊢
  obtain ⟨hfirst, hframe⟩ := hfound
  exact ⟨hfirst.trans (List.prefix_append got more), hframe⟩

/-! ## What an exchange comes to -/

/-- The result of an exchange, told by what the frame is read as and by what the
system tells of the two addresses of the connection.  The transaction is looked
at first, then the type of the answer, then the connection, and the addresses
in the answer last. -/
def verdict (source? peer? : Except SystemError Endpoint)
    (request : Message) :
    Except ProtocolError Message → Except StunError Binding
  | .error fault => .error (.protocol fault)
  | .ok answer =>
      if answer.transaction ≠ request.transaction then
        .error (.protocol .transactionMismatch)
      else if answer.messageClass = .errorResponse then
        .error (.protocol (.errorResponse answer.type))
      else if answer.type ≠ 0x0101 then
        .error (.protocol (.unexpectedMessageType answer.type))
      else
        match source?, peer? with
        | .error cause, _ => .error (.system cause)
        | .ok _, .error cause => .error (.system cause)
        | .ok source, .ok peer =>
            match answer.mappedAddress, answer.otherAddress with
            | .error fault, _ => .error (.protocol fault)
            | .ok _, .error fault => .error (.protocol fault)
            | .ok mapped, .ok other => .ok ⟨source, peer, mapped, other⟩

/-- What is left to do with a good answer. -/
def concluded (source? peer? : Except SystemError Endpoint)
    (answer : Message) : Except StunError Binding := do
  let source ← source?.mapError .system
  let peer ← peer?.mapError .system
  (Binding.ofAnswer source peer answer).mapError .protocol

section Verdict

variable (source? peer? : Except SystemError Endpoint) (request : Message)

theorem concluded_eq (answer : Message) :
    concluded source? peer? answer =
      match source?, peer? with
      | .error cause, _ => .error (.system cause)
      | .ok _, .error cause => .error (.system cause)
      | .ok source, .ok peer =>
          match answer.mappedAddress, answer.otherAddress with
          | .error fault, _ => .error (.protocol fault)
          | .ok _, .error fault => .error (.protocol fault)
          | .ok mapped, .ok other => .ok ⟨source, peer, mapped, other⟩ := by
  match source?, peer? with
  | .error cause, _ => rfl
  | .ok source, .error cause => rfl
  | .ok source, .ok peer => exact UdpExchange.mapError_ofAnswer _ _ answer

theorem verdict_eq (decoded : Except ProtocolError Message) :
    ((do
        let answer ← decoded
        request.check answer
        return answer : Except ProtocolError Message).mapError
          StunError.protocol >>= concluded source? peer?) =
      verdict source? peer? request decoded := by
  cases decoded with
  | error fault => rfl
  | ok answer =>
      by_cases htransaction : answer.transaction = request.transaction
      · have hcheck := UdpExchange.check_of_transaction_eq htransaction
        simp only [verdict, ne_eq, htransaction, not_true_eq_false, if_false]
        by_cases hclass : answer.messageClass = .errorResponse
        · rw [if_pos hclass] at hcheck ⊢
          simp only [bind, Except.bind, hcheck]
          rfl
        · rw [if_neg hclass] at hcheck ⊢
          by_cases htype : answer.type ≠ 0x0101
          · rw [if_pos htype] at hcheck ⊢
            simp only [bind, Except.bind, hcheck]
            rfl
          · rw [if_neg htype] at hcheck ⊢
            simp only [bind, Except.bind, hcheck]
            exact concluded_eq source? peer? answer
      · have hcheck : request.check answer = .error .transactionMismatch :=
          if_pos htransaction
        simp only [bind, Except.bind, hcheck, verdict, ne_eq, htransaction,
          not_false_eq_true, if_true]
        rfl

end Verdict

section Reading

variable (server : Endpoint) (request : Message) {deadline : Instant}
  {incoming : Incoming}

theorem readAnswer_of_frame {found : Bytes}
    (hfirst : found <+: incoming.arrived deadline)
    (hframe : IsFrame found) :
    ∃ time, time < deadline ∧
      readAnswer server request deadline incoming =
        (time,
          (do
            let answer ← decode found
            request.check answer
            return answer : Except ProtocolError Message).mapError
              .protocol) := by
  have hcomplete : frame? (incoming.arrived deadline) = some found :=
    frame?_eq_some_iff.mpr ⟨hfirst, hframe⟩
  obtain ⟨time, htime, hread⟩ :=
    Incoming.read_of_complete persistent_frame?
      (frame?_of_lt (Nat.zero_lt_succ 19)) hcomplete
  refine ⟨time, htime, ?_⟩
  rw [readAnswer, hread]

theorem readAnswer_of_forall_not_isFrame
    (hnone : ∀ found, found <+: incoming.arrived deadline → ¬IsFrame found) :
    readAnswer server request deadline incoming =
      match incoming.ended? deadline with
      | none => (deadline, .error (.timeout server))
      | some (time, .closed) => (time, .error (.system .unexpectedEnd))
      | some (time, .failed cause) => (time, .error (.system cause)) := by
  have hincomplete : frame? (incoming.arrived deadline) = none := by
    apply Option.eq_none_iff_forall_ne_some.mpr
    intro found hfound
    obtain ⟨hfirst, hframe⟩ := frame?_eq_some_iff.mp hfound
    exact hnone found hfirst hframe
  have hread := Incoming.read_of_incomplete persistent_frame? hincomplete
  cases hended : incoming.ended? deadline with
  | none =>
      rw [hended] at hread
      rw [readAnswer, hread]
  | some ending =>
      obtain ⟨time, how⟩ := ending
      rw [hended] at hread
      rw [readAnswer, hread]
      cases how <;> rfl

theorem time_readAnswer_le (deadline : Instant) (incoming : Incoming) :
    (readAnswer server request deadline incoming).1 ≤ deadline := by
  by_cases hframe :
      ∃ found, found <+: incoming.arrived deadline ∧ IsFrame found
  · obtain ⟨found, hfirst, hfound⟩ := hframe
    obtain ⟨time, htime, hread⟩ :=
      readAnswer_of_frame server request hfirst hfound
    rw [hread]
    exact Int.le_of_lt htime
  · have hread :=
      readAnswer_of_forall_not_isFrame server request
        fun found hfirst hfound => hframe ⟨found, hfirst, hfound⟩
    rw [hread]
    cases hended : incoming.ended? deadline with
    | none => exact Int.le_refl deadline
    | some ending =>
        obtain ⟨time, how⟩ := ending
        have htime := Incoming.lt_of_ended?_eq_some hended
        cases how <;> exact Int.le_of_lt htime

end Reading

/-! ## A whole probe -/

section Running

variable {σ : Type}

theorem now_bind (requested : Endpoint) (host : Host σ) :
    (Host.bind requested host).2.now = host.now := by
  unfold Host.bind
  split
  · rfl
  · split <;> rfl

theorem now_connect (socket server : Endpoint) (limit : Duration)
    (host : Host σ) :
    host.now ≤ (Host.connect socket server limit host).2.now ∧
      (Host.connect socket server limit host).2.now ≤ host.now + limit := by
  unfold Host.connect
  dsimp only
  split
  · split <;> grind
  · split <;> grind
  · grind

theorem run_connect (socket server : Endpoint) (timeout : Duration)
    (host : Host σ) :
    (connect socket server timeout).run host =
      (match (Host.connect socket server timeout host).1 with
        | none => .error (.timeout server)
        | some (.error cause) => .error (.connect server cause)
        | some (.ok source) => .ok source,
        (Host.connect socket server timeout host).2) := by
  rw [connect, Attempt.run_bind_of_ok (Attempt.run_always _ _)]
  generalize Host.connect socket server timeout host = attempt
  obtain ⟨outcome, after⟩ := attempt
  match outcome with
  | none => rfl
  | some (.error cause) => rfl
  | some (.ok source) => rfl

theorem run_callStream {α : Type} (source server : Endpoint)
    (call : StreamCall) (result : α) (host : Host σ) :
    (Attempt.ofSystem .system
        (Host.callStream source server call result)).run host =
      ((Host.callStream source server call result host).1.mapError .system,
        host) := by
  cases hfault : host.streamFault? source server call with
  | none =>
      have hcall : Host.callStream source server call result host =
          (.ok result, host) := by
        rw [Host.callStream, hfault]
      rw [Attempt.run_ofSystem_of_ok hcall, hcall]
      rfl
  | some cause =>
      have hcall : Host.callStream source server call result host =
          (.error cause, host) := by
        rw [Host.callStream, hfault]
      rw [Attempt.run_ofSystem_of_error hcall, hcall]
      rfl

theorem run_callStream_of_none {α : Type} {source server : Endpoint}
    {call : StreamCall} {host : Host σ}
    (hfault : host.streamFault? source server call = none) (result : α) :
    (Attempt.ofSystem .system
        (Host.callStream source server call result)).run host =
      (.ok result, host) := by
  rw [run_callStream, Host.callStream, hfault]
  rfl

theorem run_callStream_of_some {α : Type} {source server : Endpoint}
    {call : StreamCall} {host : Host σ} {cause : SystemError}
    (hfault : host.streamFault? source server call = some cause)
    (result : α) :
    (Attempt.ofSystem .system
        (Host.callStream source server call result)).run host =
      (.error (.system cause), host) := by
  rw [run_callStream, Host.callStream, hfault]
  rfl

theorem run_concluded (source server : Endpoint) (answer : Message)
    (told : Host σ) :
    (do
      let origin ← Attempt.ofSystem .system
        (Host.callStream source server .localAddress source)
      let peer ← Attempt.ofSystem .system
        (Host.callStream source server .peerAddress server)
      Attempt.ofProtocol (Binding.ofAnswer origin peer answer) :
        Attempt (Host σ) Binding).run told =
      (concluded
          (Host.callStream source server .localAddress source told).1
          (Host.callStream source server .peerAddress server told).1 answer,
        told) := by
  have hlocal := run_callStream source server .localAddress source told
  have hpeer := run_callStream source server .peerAddress server told
  cases hsource :
      (Host.callStream source server .localAddress source told).1 with
  | error cause =>
      rw [hsource] at hlocal
      rw [Attempt.run_bind_of_error hlocal]
      rfl
  | ok origin =>
      rw [hsource] at hlocal
      rw [Attempt.run_bind_of_ok hlocal]
      cases hserver :
          (Host.callStream source server .peerAddress server told).1 with
      | error cause =>
          rw [hserver] at hpeer
          rw [Attempt.run_bind_of_error hpeer]
          rfl
      | ok peer =>
          rw [hserver] at hpeer
          rw [Attempt.run_bind_of_ok hpeer]
          rfl

section Exchange

variable {source server : Endpoint} {timeout : Duration}
  {connected drawn talking : Host σ} {request : Message}
  {incoming : Incoming}

/-- A host that has looked at the answer to its request. -/
def answeredHost (server : Endpoint) (timeout : Duration) (request : Message)
    (incoming : Incoming) (drawn talking : Host σ) : Host σ :=
  let answer := readAnswer server request (drawn.now + timeout) incoming
  { talking with now := max talking.now answer.1 }

theorem run_exchange_of_noDelayFault {cause : SystemError}
    (hfault :
      connected.streamFault? source server .setNoDelay = some cause) :
    (exchange source server timeout).run connected =
      (.error (.system cause), connected) := by
  rw [exchange, Attempt.run_bind_of_error (run_callStream_of_some hfault _)]

variable
  (hnoDelay : connected.streamFault? source server .setNoDelay = none)
  (hrequest : (Host.newRequest .none).run connected = (.ok request, drawn))

include hnoDelay hrequest

theorem run_exchange_of_writeFault {cause : SystemError}
    (hfault : drawn.streamFault? source server .write = some cause) :
    (exchange source server timeout).run connected =
      (.error (.system cause), drawn) := by
  rw [exchange, Attempt.run_bind_of_ok (run_callStream_of_none hnoDelay _),
    Attempt.run_bind_of_ok hrequest,
    Attempt.run_bind_of_ok (Attempt.run_get drawn),
    Attempt.run_bind_of_error (run_callStream_of_some hfault _)]

/-- What follows the request once it is written. -/
theorem run_exchange_of_written
    (hwrite : drawn.streamFault? source server .write = none)
    (hconverse :
      Host.converse source server request.encode drawn =
        (incoming, talking)) :
    (exchange source server timeout).run connected =
      let answer := readAnswer server request (drawn.now + timeout) incoming
      let told := answeredHost server timeout request incoming drawn talking
      (answer.2 >>= concluded
          (Host.callStream source server .localAddress source told).1
          (Host.callStream source server .peerAddress server told).1,
        told) := by
  rw [exchange, Attempt.run_bind_of_ok (run_callStream_of_none hnoDelay _),
    Attempt.run_bind_of_ok hrequest,
    Attempt.run_bind_of_ok (Attempt.run_get drawn),
    Attempt.run_bind_of_ok (run_callStream_of_none hwrite _),
    Attempt.run_bind_of_ok (Attempt.run_always _ _), hconverse]
  unfold answeredHost
  generalize readAnswer server request (drawn.now + timeout) incoming = answer
  obtain ⟨time, outcome⟩ := answer
  dsimp only
  rw [Attempt.run_bind_of_ok (Attempt.run_always _ _)]
  cases outcome with
  | error error => rfl
  | ok answer =>
      have hanswer (host : Host σ) :
          (Attempt.ofResult (.ok answer)).run host =
            ((.ok answer, host) : Except StunError Message × Host σ) := rfl
      rw [Attempt.run_bind_of_ok (hanswer _)]
      exact run_concluded source server answer _

end Exchange

section Probe

variable {origin server socket source : Endpoint}
  {settings : ExchangeSettings} {host bound connected : Host σ}

/-- What follows the handshake. -/
theorem run_probe_of_connected
    (hbind : Host.bind origin host = (.ok socket, bound))
    (hconnect :
      Host.connect socket server settings.timeout bound =
        (some (.ok source), connected)) :
    (probe origin server settings).run host =
      (exchange source server settings.timeout).run connected := by
  have hbound : (Host.bindOrFail origin).run host = (.ok socket, bound) :=
    Attempt.run_ofSystem_of_ok hbind (StunError.bind origin)
  have hconnected : (connect socket server settings.timeout).run bound =
      (.ok source, connected) := by
    rw [run_connect, hconnect]
  rw [probe, Attempt.run_bind_of_ok hbound, Attempt.run_bind_of_ok hconnected]

theorem now_exchange (source server : Endpoint) (timeout : Duration)
    (connected : Host σ) :
    connected.now ≤ ((exchange source server timeout).run connected).2.now ∧
      ((exchange source server timeout).run connected).2.now ≤
        connected.now + timeout := by
  cases hnoDelay : connected.streamFault? source server .setNoDelay with
  | some cause =>
      rw [run_exchange_of_noDelayFault hnoDelay]
      grind
  | none =>
      obtain ⟨request, drawn, hrequest, hdrawn⟩ :
          ∃ request drawn,
            (Host.newRequest .none).run connected = (.ok request, drawn) ∧
              drawn.now = connected.now := ⟨_, _, rfl, rfl⟩
      cases hwrite : drawn.streamFault? source server .write with
      | some cause =>
          rw [run_exchange_of_writeFault hnoDelay hrequest hwrite]
          grind
      | none =>
          obtain ⟨incoming, talking, hconverse, htalking⟩ :
              ∃ incoming talking,
                Host.converse source server request.encode drawn =
                    (incoming, talking) ∧
                  talking.now = drawn.now := ⟨_, _, rfl, rfl⟩
          have hanswered := time_readAnswer_le server request
            (drawn.now + timeout) incoming
          rw [run_exchange_of_written hnoDelay hrequest hwrite hconverse]
          dsimp only [answeredHost]
          grind

theorem now_probe (origin server : Endpoint) (settings : ExchangeSettings)
    (host : Host σ) :
    host.now ≤ ((probe origin server settings).run host).2.now ∧
      ((probe origin server settings).run host).2.now ≤
        host.now + (2 * settings.timeout : Nat) := by
  have hnowBound := now_bind origin host
  cases hbind : Host.bind origin host with
  | mk bind? bound =>
  rw [hbind] at hnowBound
  cases bind? with
  | error cause =>
      have hfailed : (Host.bindOrFail origin).run host =
          (.error (.bind origin cause), bound) :=
        Attempt.run_ofSystem_of_error hbind (StunError.bind origin)
      rw [probe, Attempt.run_bind_of_error hfailed]
      grind
  | ok socket =>
      have hbound : (Host.bindOrFail origin).run host = (.ok socket, bound) :=
        Attempt.run_ofSystem_of_ok hbind (StunError.bind origin)
      have hnowConnected := now_connect socket server settings.timeout bound
      have hconnected := run_connect socket server settings.timeout bound
      cases hconnect : Host.connect socket server settings.timeout bound with
      | mk connect? connected =>
      rw [hconnect] at hnowConnected hconnected
      match connect? with
      | none | some (.error cause) =>
          rw [probe, Attempt.run_bind_of_ok hbound,
            Attempt.run_bind_of_error hconnected]
          grind
      | some (.ok source) =>
          have hnowExchange :=
            now_exchange source server settings.timeout connected
          rw [run_probe_of_connected hbind hconnect]
          grind

end Probe

/-! ## What an exchange tells -/

/-- What an exchange comes to is told by the bytes that arrive in time and by
the addresses of the connection. -/
structure Answered (source? peer? : Except SystemError Endpoint)
    (server : Endpoint) (request : Message) (arrived : Bytes)
    (ended? : Option (Instant × StreamEnd))
    (outcome : Except StunError Binding) : Prop where
  /-- The stream starts with a frame.  Nothing else of it counts. -/
  framed : ∀ found, found <+: arrived → IsFrame found →
    outcome = verdict source? peer? request (decode found)
  faults : ∀ found fault, IsFrame found → decode found = .error fault →
    (∃ remaining, fault = .malformedAttributes remaining) ∨
      ∃ type, fault = .truncatedAttribute type
  /-- In particular it may start with a message. -/
  written : ∀ message : Message, message.payloadLength < 65536 →
    message.encode <+: arrived →
    outcome = verdict source? peer? request (.ok message)
  ended : (∀ found, found <+: arrived → ¬IsFrame found) →
    outcome =
      match ended? with
      | some (_, .closed) => .error (.system .unexpectedEnd)
      | some (_, .failed cause) => .error (.system cause)
      | none => .error (.timeout server)

/-- What an exchange on a connection comes to, by the first call of it that
fails. -/
structure Exchanged (source server : Endpoint) (timeout : Duration)
    (connected : Host σ) (outcome : Except StunError Binding) : Prop where
  unprepared : ∀ cause,
    connected.streamFault? source server .setNoDelay = some cause →
    outcome = .error (.system cause)
  unwritten : ∀ request drawn cause,
    connected.streamFault? source server .setNoDelay = none →
    (Host.newRequest .none).run connected = (.ok request, drawn) →
    drawn.streamFault? source server .write = some cause →
    outcome = .error (.system cause)
  answered : ∀ request drawn incoming talking,
    connected.streamFault? source server .setNoDelay = none →
    (Host.newRequest .none).run connected = (.ok request, drawn) →
    drawn.streamFault? source server .write = none →
    Host.converse source server request.encode drawn = (incoming, talking) →
    let deadline := drawn.now + timeout
    let told := answeredHost server timeout request incoming drawn talking
    Answered (Host.callStream source server .localAddress source told).1
      (Host.callStream source server .peerAddress server told).1 server
      request (incoming.arrived deadline) (incoming.ended? deadline) outcome

theorem exchange_exchanged (source server : Endpoint) (timeout : Duration)
    (connected : Host σ) :
    Exchanged source server timeout connected
      ((exchange source server timeout).run connected).1 where
  unprepared := by
    intro cause hfault
    rw [run_exchange_of_noDelayFault hfault]
  unwritten := by
    intro request drawn cause hnoDelay hrequest hfault
    rw [run_exchange_of_writeFault hnoDelay hrequest hfault]
  answered := by
    intro request drawn incoming talking hnoDelay hrequest hwrite hconverse
      deadline told
    rw [run_exchange_of_written hnoDelay hrequest hwrite hconverse]
    have hframed : ∀ found, found <+: incoming.arrived deadline →
        IsFrame found →
        ((readAnswer server request deadline incoming).2 >>= concluded
            (Host.callStream source server .localAddress source told).1
            (Host.callStream source server .peerAddress server told).1) =
          verdict (Host.callStream source server .localAddress source told).1
            (Host.callStream source server .peerAddress server told).1
            request (decode found) := by
      intro found hfirst hframe
      obtain ⟨time, _, hread⟩ :=
        readAnswer_of_frame server request hfirst hframe
      rw [hread]
      exact verdict_eq _ _ request (decode found)
    constructor
    case framed => exact hframed
    case faults => exact fun _ _ => fault_of_decode_eq_error
    case written =>
      intro message hpayload hfirst
      exact (hframed _ hfirst (isFrame_encode hpayload)).trans
        (congrArg _ (decode_encode_of_lt hpayload))
    case ended =>
      intro hnone
      have hread :=
        readAnswer_of_forall_not_isFrame server request hnone
      change (readAnswer server request deadline incoming).2 >>= _ = _
      rw [hread]
      match incoming.ended? deadline with
      | none => rfl
      | some (time, .closed) => rfl
      | some (time, .failed cause) => rfl

/-- A probe takes no more than twice the timeout, whatever happens.  Once the
connection is made and the request is written, its result depends on the first
frame of the server's stream and on the addresses of the connection alone, if
that frame arrives before the timeout. -/
theorem run_probe_answered (origin server : Endpoint)
    (settings : ExchangeSettings) (host : Host σ) :
    let run := (probe origin server settings).run host
    (host.now ≤ run.2.now ∧
        run.2.now ≤ host.now + (2 * settings.timeout : Nat)) ∧
      ∀ socket source bound connected,
        Host.bind origin host = (.ok socket, bound) →
        Host.connect socket server settings.timeout bound =
          (some (.ok source), connected) →
        Exchanged source server settings.timeout connected run.1 := by
  intro run
  refine ⟨now_probe origin server settings host, ?_⟩
  intro socket source bound connected hbind hconnect
  rw [show run = _ from run_probe_of_connected hbind hconnect]
  exact exchange_exchanged source server settings.timeout connected

end Running

/-! ## An answer in pieces -/

open UdpExchange (sampleSocket sampleServer sampleTransaction sampleAnswer)

/-- An answer that comes in three pieces, with more bytes behind it. -/
def dribble (now : Instant) : Incoming :=
  let bytes := (sampleAnswer sampleTransaction).encode
  ⟨[(now + Duration.seconds 1, bytes.take 1),
      (now + Duration.seconds 2, (bytes.drop 1).take 25),
      (now + Duration.milliseconds 2999, bytes.drop 26 ++ [1, 2, 3])],
    none⟩

/-- A network that connects after two seconds to a server that is slow.  The
system may have forgotten the peer by the time it is asked for it. -/
def dribblingSurroundings (forgotten? : Option SystemError) :
    Surroundings Unit where
  bindFault? := fun _ _ _ => none
  freePort := fun _ => 32768
  transaction := fun _ => Vector.replicate 12 7
  token := fun _ => Vector.replicate 16 0
  addresses := fun _ => .ok []
  route := fun _ => .ok sampleSocket.ip
  deliver := fun _ _ _ => .ok ([], ())
  connect := fun _ now source _ =>
    (.completed (now + Duration.seconds 2) source, ())
  converse := fun _ now _ _ _ => (dribble now, ())
  visits := fun _ _ _ _ _ => ([], ())
  streamFault? := fun _ _ _ _ call =>
    if call = .peerAddress then forgotten? else none

/-- The answer is read although it comes in pieces, and counts for nothing if
the connection is reset behind it. -/
theorem run_probe_answered_dribble :
    let run (forgotten? : Option SystemError) :=
      (probe sampleSocket sampleServer {}).run
        (Host.start (dribblingSurroundings forgotten?) ())
    (run none).1 =
        .ok ⟨sampleSocket, sampleServer, some ⟨⟨203, 0, 113, 7⟩, 40000⟩,
          none⟩ ∧
      (run (some .notConnected)).1 = .error (.system .notConnected) ∧
      (run none).2.now ≤ Duration.seconds 6 := by
  intro run
  have hrun (forgotten? : Option SystemError) :=
    run_probe_answered sampleSocket sampleServer {}
      (Host.start (dribblingSurroundings forgotten?) ())
  have hresult (forgotten? : Option SystemError) :=
    (((hrun forgotten?).2 _ _ _ _ rfl rfl).answered _ _ _ _ rfl rfl rfl
      rfl).written (sampleAnswer sampleTransaction) (by decide)
      ⟨[1, 2, 3], rfl⟩
  exact ⟨(hresult none).trans rfl,
    (hresult (some .notConnected)).trans rfl, (hrun none).1.2⟩

end TcpExchange

end Pinhole
