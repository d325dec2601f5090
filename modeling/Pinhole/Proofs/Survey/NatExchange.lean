import Pinhole.Proofs.Survey.NatNetwork

/-!
# Exchanges behind a NAT

In a network with a NAT an exchange never fails otherwise than by running out of
time, and it runs out of time only if the filter keeps the reply away or no
reply comes in time.  Late replies to earlier exchanges are met on the way, but
they carry other transaction identifiers.
-/

namespace Pinhole

namespace NatNetwork

variable {network : NatNetwork} {base : Surroundings State}

/-! ## Requests and their replies -/

theorem decode_request (transaction : TransactionId) (change : Change) :
    Message.decode (Message.request transaction change).encode =
      .ok (Message.request transaction change) := by
  have hpayload :
      (Message.request transaction change).payloadLength =
        if change.isNone then 0 else 8 := by
    unfold Message.request Message.payloadLength
    split
    · rfl
    · simp [Attribute.encodedLength, Attribute.ofChange, Bytes.ofWord,
        Bytes.padded]
  apply Message.decode_encode_of_lt
  rw [hpayload]
  split <;> decide

theorem replier_request (network : NatNetwork) (socket server : Endpoint)
    (transaction : TransactionId) (change : Change) :
    network.replier
        ⟨socket, server, (Message.request transaction change).encode⟩ =
      network.server.replier server change := by
  simp only [replier, decode_request, Message.requestedChange_request]

theorem decode_reply {datagram : Datagram} {count : Nat}
    {reply : Duration × Message}
    (hreply : reply ∈ network.replies datagram count) :
    Message.decode (reply.2.encode.take UdpExchange.receiveLimit) =
      .ok reply.2 := by
  have hlength := network.length_reply datagram count reply hreply
  rw [List.take_of_length_le hlength]
  apply Message.decode_encode_of_lt
  rw [Message.encode_eq_frame, Message.length_frame,
    Message.length_flatMap_encode] at hlength
  have hlimit : UdpExchange.receiveLimit = 1500 := rfl
  omega

/-- An exchange is under way: nothing else was sent with its transaction
identifier. -/
structure Exchanging (network : NatNetwork) (base : Surroundings State)
    (socket server : Endpoint) (request : Message) (host : Host State) :
    Prop where
  sound : network.Sound base host
  current : ∀ datagram ∈ host.peers.sent, ∀ other,
    Message.decode datagram.bytes = .ok other →
      other.transaction = request.transaction →
        datagram = ⟨socket, server, request.encode⟩

section Exchange

variable {host : Host State} {socket server : Endpoint} {change : Change}
  {transaction : TransactionId}

theorem answer?_of_repliesTo
    (haccepts :
      change.accepts server (network.server.replier server change) = true)
    {arrival : Arrival}
    (hreplies :
      network.RepliesTo
        ⟨socket, server, (Message.request transaction change).encode⟩
        arrival) :
    ∃ message,
      arrival.datagram?.bind
          (UdpExchange.answer? (Message.request transaction change) server
            change) =
        some message := by
  obtain ⟨count, reply, hreply, hdatagram⟩ := hreplies
  have hanswers :=
    network.answers _ _ _ hreply _ (decode_request transaction change)
  refine ⟨reply.2, ?_⟩
  rw [hdatagram, replier_request]
  simp only [Option.bind_some, UdpExchange.answer?, decode_reply hreply,
    hanswers.transaction, haccepts, and_self, if_true]

/-- What is taken for an answer is a reply to this exchange. -/
theorem Exchanging.reply_of_answer?
    (hexchanging :
      network.Exchanging base socket server
        (Message.request transaction change) host)
    {arrival : Arrival} (hmem : arrival ∈ host.inbox socket)
    {datagram : Datagram} (hdatagram : arrival.datagram? = some datagram)
    {message : Message}
    (hanswer :
      UdpExchange.answer? (Message.request transaction change) server change
          datagram =
        some message) :
    (∃ count, ∃ reply ∈ network.replies
        ⟨socket, server, (Message.request transaction change).encode⟩ count,
      reply.2 = message) ∧
      network.filter.Admits (contacted host.peers.sent socket)
        (network.server.replier server change) := by
  obtain ⟨origin, horigin, _, ⟨count, reply, hreply, harrival⟩, hadmits⟩ :=
    hexchanging.sound.received socket arrival hmem
  rw [hdatagram, Option.some.injEq] at harrival
  subst harrival
  simp only [UdpExchange.answer?, decode_reply hreply] at hanswer
  split at hanswer
  · rename_i hanswered
    obtain ⟨index, asked, _, hbytes⟩ :=
      hexchanging.sound.requested origin horigin
    have hdecode :
        Message.decode origin.bytes =
          .ok (Message.request (.ofFresh (base.transaction index)) asked) := by
      rw [hbytes, decode_request]
    have hanswers := network.answers _ _ _ hreply _ hdecode
    have hsame := hanswers.transaction.symm.trans hanswered.1
    have hcurrent := hexchanging.current origin horigin _ hdecode hsame
    rw [hcurrent] at hreply hadmits
    rw [replier_request] at hadmits
    exact ⟨⟨count, reply, hreply, by simpa using hanswer⟩, hadmits⟩
  · cases hanswer

/-- What one attempt comes to: an answer, or silence until its time is over,
after which the replies that are still to come are in the inbox. -/
theorem Exchanging.run_exchange_succ
    (hexchanging :
      network.Exchanging base socket server
        (Message.request transaction change) host)
    (hrequest : ∃ index, index < host.drawn ∧
      transaction = .ofFresh (base.transaction index))
    (haccepts :
      change.accepts server (network.server.replier server change) = true)
    (timeout : Duration) (attempts : Nat) :
    let datagram : Datagram :=
      ⟨socket, server, (Message.request transaction change).encode⟩
    ∃ after : Host State,
      network.Exchanging base socket server
          (Message.request transaction change) after ∧
        after.sent = host.sent ++ [(host.now, datagram)] ∧
        after.drawn = host.drawn ∧ after.opened = host.opened ∧
        ((∃ count, ∃ reply ∈ network.replies datagram count,
            (UdpExchange.exchange socket server change timeout
                (Message.request transaction change) (attempts + 1)).run
                host = (.ok reply.2, after) ∧
              network.filter.Admits (contacted after.peers.sent socket)
                (network.server.replier server change)) ∨
          (UdpExchange.exchange socket server change timeout
                (Message.request transaction change) (attempts + 1)).run
                host =
              (UdpExchange.exchange socket server change timeout
                (Message.request transaction change) attempts).run after ∧
            after.now = host.now + timeout ∧
            ∀ arrival ∈
                (afterSending network host datagram).inbox socket,
              network.RepliesTo datagram arrival →
                after.now ≤ arrival.time ∧
                  arrival ∈ after.inbox socket) := by
  intro datagram
  obtain ⟨index, hindex, htransaction⟩ := hrequest
  let sent := afterSending network host datagram
  have hbytes :
      datagram.bytes =
        (Message.request (.ofFresh (base.transaction index))
          change).encode := by
    rw [← htransaction]
  have hsound : network.Sound base sent :=
    hexchanging.sound.afterSending_sound hindex hbytes
  have hsent :
      network.Exchanging base socket server
        (Message.request transaction change) sent :=
    { sound := hsound
      current := by
        intro other hother
        rcases List.mem_append.mp hother with hold | hnew
        · exact hexchanging.current other hold
        · intro _ _ _
          exact List.mem_singleton.mp hnew }
  have hsend : Host.send datagram host = (.ok (), sent) :=
    hexchanging.sound.send_eq datagram
  have hlistened :=
    UdpExchange.listened_listen
      (UdpExchange.answer? (Message.request transaction change) server
        change)
      (sent.now + timeout) (hsound.chronological socket)
      (hsound.isSome_datagram? socket)
  cases hlisten :
      UdpExchange.listen
        (UdpExchange.answer? (Message.request transaction change) server
          change)
        (sent.now + timeout) (sent.inbox socket) with
  | mk wait unread =>
      rw [hlisten] at hlistened
      cases hlistened with
      | @answered arrival _ _ _ hmem hdatagram htime hanswer hunread =>
          obtain ⟨⟨count, reply, hreply, rfl⟩, hadmits⟩ :=
            hsent.reply_of_answer? hmem hdatagram hanswer
          refine
            ⟨UdpExchange.heard sent socket unread arrival.time,
              ⟨hsound.heard hunread _, hsent.current⟩, rfl, rfl, rfl, ?_⟩
          left
          exact
            ⟨count, reply, hreply,
              UdpExchange.run_exchange_of_answered hsend hlisten attempts,
              hadmits⟩
      | silent hnone =>
          let kept := (sent.inbox socket).filter fun arrival =>
            sent.now + timeout ≤ arrival.time
          let after :=
            UdpExchange.heard sent socket kept (sent.now + timeout)
          have hnow : after.now = host.now + timeout := by
            apply Int.max_eq_right
            exact Int.le_add_of_nonneg_right (Int.natCast_nonneg timeout)
          refine
            ⟨after, ⟨hsound.heard List.filter_sublist _, hsent.current⟩, rfl,
              rfl, rfl, ?_⟩
          right
          refine
            ⟨UdpExchange.run_exchange_of_silent hsend hlisten attempts,
              hnow, ?_⟩
          intro arrival hmem hreplies
          obtain ⟨message, hmessage⟩ :=
            answer?_of_repliesTo haccepts hreplies
          have hlate : sent.now + timeout ≤ arrival.time := by
            by_contra hearly
            have hunanswered :=
              hnone arrival hmem (Int.not_le.mp hearly)
            rw [hmessage] at hunanswered
            cases hunanswered
          have hkept : arrival ∈ kept :=
            List.mem_filter.mpr ⟨hmem, by simpa using hlate⟩
          refine ⟨?_, ?_⟩
          · rw [hnow]
            exact hlate
          · simpa [after, UdpExchange.heard] using hkept

end Exchange

/-! ## A whole exchange -/

/-- A reply is admitted, and it comes in time for one of the attempts that are
left or is under way already. -/
def Due (network : NatNetwork) (host : Host State) (datagram : Datagram)
    (timeout : Duration) (attempts : Nat) : Prop :=
  network.filter.Admits
      (contacted (host.peers.sent ++ [datagram]) datagram.sender)
      (network.replier datagram) ∧
    ((∃ attempt < attempts,
        ∃ reply ∈ network.replies datagram
            (host.peers.sent.count datagram + attempt),
          attempt * timeout + reply.1 < attempts * timeout) ∨
      ∃ arrival ∈ host.inbox datagram.sender,
        network.RepliesTo datagram arrival ∧ host.now ≤ arrival.time ∧
          arrival.time < host.now + (attempts * timeout : Nat))

theorem not_due_zero (network : NatNetwork) (host : Host State)
    (datagram : Datagram) (timeout : Duration) :
    ¬ network.Due host datagram timeout 0 := by
  rintro ⟨_, ⟨attempt, hattempt, _⟩ | ⟨arrival, _, _, hle, hlt⟩⟩
  · exact absurd hattempt (Nat.not_lt_zero attempt)
  · rw [Nat.zero_mul] at hlt
    have hlt : arrival.time < host.now := by simpa using hlt
    exact absurd hle (Int.not_le.mpr hlt)

/-- What is due stays due after an attempt that met with silence. -/
theorem due_of_silence {network : NatNetwork} {host after : Host State}
    {datagram : Datagram} {timeout : Duration} {attempts : Nat}
    (hdue : network.Due host datagram timeout (attempts + 1))
    (hsent : after.peers.sent = host.peers.sent ++ [datagram])
    (hnow : after.now = host.now + timeout)
    (hkept : ∀ arrival ∈
        (afterSending network host datagram).inbox datagram.sender,
      network.RepliesTo datagram arrival →
        after.now ≤ arrival.time ∧
          arrival ∈ after.inbox datagram.sender) :
    network.Due after datagram timeout attempts := by
  obtain ⟨hadmits, hcomes⟩ := hdue
  have hend :
      host.now + ((attempts + 1) * timeout : Nat) =
        after.now + (attempts * timeout : Nat) := by
    rw [hnow, Nat.succ_mul, Nat.add_comm, Int.natCast_add, Int.add_assoc]
  have hready {arrival : Arrival}
      (hmem : arrival ∈
        (afterSending network host datagram).inbox datagram.sender)
      (hreplies : network.RepliesTo datagram arrival)
      (hlt : arrival.time < host.now + ((attempts + 1) * timeout : Nat)) :
      ∃ arrival ∈ after.inbox datagram.sender,
        network.RepliesTo datagram arrival ∧ after.now ≤ arrival.time ∧
          arrival.time < after.now + (attempts * timeout : Nat) := by
    obtain ⟨hle, hstays⟩ := hkept arrival hmem hreplies
    rw [hend] at hlt
    exact ⟨arrival, hstays, hreplies, hle, hlt⟩
  refine ⟨?_, ?_⟩
  · apply hadmits.of_subset
    rw [hsent]
    exact contacted_append_subset _ _ _
  · rcases hcomes with
      ⟨attempt, hattempt, reply, hreply, hlt⟩ | ⟨arrival, hmem, hreplies, _, hlt⟩
    · cases attempt with
      | zero =>
          right
          rw [Nat.add_zero] at hreply
          rw [Nat.zero_mul, Nat.zero_add] at hlt
          have htime :
              (network.arrival host.now datagram reply).time <
                host.now + ((attempts + 1) * timeout : Nat) :=
            Int.add_lt_add_left (Int.ofNat_lt.mpr hlt) host.now
          exact
            hready (arrival_mem_inbox_afterSending hreply hadmits)
              (repliesTo_arrival host.now hreply) htime
      | succ attempt =>
          left
          refine ⟨attempt, Nat.lt_of_succ_lt_succ hattempt, reply, ?_, ?_⟩
          · rw [hsent, List.count_append, List.count_singleton_self]
            rw [Nat.add_right_comm, Nat.add_assoc]
            exact hreply
          · rw [Nat.succ_mul, Nat.succ_mul] at hlt
            omega
    · right
      exact hready (mem_inbox_afterSending_of_mem hmem) hreplies hlt

/-- An exchange ends with a reply that the filter admits, or it runs out of
time although nothing was due. -/
theorem Exchanging.run_exchange {host : Host State}
    {socket server : Endpoint} {change : Change}
    {transaction : TransactionId}
    (hexchanging :
      network.Exchanging base socket server
        (Message.request transaction change) host)
    (hrequest : ∃ index, index < host.drawn ∧
      transaction = .ofFresh (base.transaction index))
    (haccepts :
      change.accepts server (network.server.replier server change) = true)
    (timeout : Duration) (attempts : Nat) :
    let datagram : Datagram :=
      ⟨socket, server, (Message.request transaction change).encode⟩
    ∃ outcome after more,
      (UdpExchange.exchange socket server change timeout
            (Message.request transaction change) attempts).run host =
          (outcome, after) ∧
        network.Sound base after ∧
        after.sent = host.sent ++ more ∧
        (∀ entry ∈ more, entry.2 = datagram) ∧
        (0 < attempts → more ≠ []) ∧
        after.drawn = host.drawn ∧ after.opened = host.opened ∧
        ((∃ count, ∃ reply ∈ network.replies datagram count,
            outcome = .ok reply.2 ∧
              network.filter.Admits (contacted after.peers.sent socket)
                (network.server.replier server change)) ∨
          outcome = .error (.timeout server) ∧
            ¬ network.Due host datagram timeout attempts) := by
  intro datagram
  induction attempts generalizing host with
  | zero =>
      refine
        ⟨_, host, [], rfl, hexchanging.sound, ?_, by simp, by simp, rfl, rfl,
          Or.inr ⟨rfl, not_due_zero network host datagram timeout⟩⟩
      rw [List.append_nil]
  | succ attempts ih =>
      obtain ⟨next, hnext, hsent, hdrawn, hopened, hcases⟩ :=
        hexchanging.run_exchange_succ hrequest haccepts timeout attempts
      rcases hcases with
        ⟨count, reply, hreply, hrun, hadmits⟩ | ⟨hrun, hnow, hkept⟩
      · refine
          ⟨.ok reply.2, next, [(host.now, datagram)], hrun, hnext.sound,
            hsent, by simp, by simp, hdrawn, hopened, ?_⟩
        left
        exact ⟨count, reply, hreply, rfl, hadmits⟩
      · have hindex : ∃ index, index < next.drawn ∧
            transaction = .ofFresh (base.transaction index) := by
          rw [hdrawn]
          exact hrequest
        obtain
          ⟨outcome, after, more, hrest, hsound, hmore, hall, _, hdrawn',
            hopened', hend⟩ := ih hnext hindex
        refine
          ⟨outcome, after, (host.now, datagram) :: more, ?_, hsound, ?_, ?_,
            by simp, hdrawn'.trans hdrawn, hopened'.trans hopened, ?_⟩
        · rw [hrun, hrest]
        · rw [hmore, hsent, List.append_assoc, List.singleton_append]
        · intro entry hentry
          rcases List.mem_cons.mp hentry with rfl | hold
          · rfl
          · exact hall entry hold
        · rcases hend with hanswered | ⟨htimeout, hnotDue⟩
          · exact Or.inl hanswered
          · right
            refine ⟨htimeout, ?_⟩
            intro hdue
            have hpeers :
                next.peers.sent = host.peers.sent ++ [datagram] := by
              rw [hnext.sound.sent_eq, hsent, hexchanging.sound.sent_eq,
                List.map_append]
              rfl
            exact hnotDue (due_of_silence hdue hpeers hnow hkept)

/-! ## A request and its binding -/

/-- The random parts of the first transaction identifiers differ. -/
def Distinct (base : Surroundings State) (count : Nat) : Prop :=
  ∀ first second, first < second → second < count →
    base.transaction first ≠ base.transaction second

/-- The endpoint that requests to a peer leave from, as the host sees it. -/
def LeavesFrom (base : Surroundings State) (socket peer source : Endpoint) :
    Prop :=
  socket.ip ≠ .unspecified ∧ source = socket ∨
    socket.ip = .unspecified ∧
      ∃ ip, base.route peer = .ok ip ∧ source = ⟨ip, socket.port⟩

theorem ofFresh_injective {left right : Vector UInt8 12}
    (hsame : TransactionId.ofFresh left = TransactionId.ofFresh right) :
    left = right := by
  have hbytes := congrArg TransactionId.bytes hsame
  exact Vector.toList_inj.mp (List.append_cancel_left hbytes)

theorem Sound.run_sourceTowards {host : Host State}
    (hsound : network.Sound base host) {socket server source : Endpoint}
    (hsource : LeavesFrom base socket server source) :
    (UdpExchange.sourceTowards socket server).run host =
      (.ok source, host) := by
  unfold UdpExchange.sourceTowards
  rcases hsource with ⟨hip, rfl⟩ | ⟨hip, ip, hroute, rfl⟩
  · rw [if_pos hip]
    rfl
  · have hhost : host.surroundings.route server = .ok ip := by
      rw [hsound.surroundings_eq]
      exact hroute
    rw [if_neg (not_not.mpr hip),
      Attempt.run_bind_of_ok (Attempt.run_get host), hhost]
    rfl

/-- A new transaction identifier was not used before. -/
theorem Sound.exchanging {host : Host State}
    (hsound : network.Sound base host)
    (hdistinct : Distinct base (host.drawn + 1))
    (socket server : Endpoint) (change : Change) :
    (∀ datagram ∈ host.peers.sent, ∀ other,
        Message.decode datagram.bytes = .ok other →
          other.transaction ≠ .ofFresh (base.transaction host.drawn)) ∧
      network.Exchanging base socket server
        (Message.request (.ofFresh (base.transaction host.drawn)) change)
        { host with drawn := host.drawn + 1 } := by
  have hunused : ∀ datagram ∈ host.peers.sent, ∀ other,
      Message.decode datagram.bytes = .ok other →
        other.transaction ≠ .ofFresh (base.transaction host.drawn) := by
    intro datagram hmem other hdecode hsame
    obtain ⟨index, asked, hindex, hbytes⟩ := hsound.requested datagram hmem
    rw [hbytes, decode_request, Except.ok.injEq] at hdecode
    subst hdecode
    exact
      hdistinct index host.drawn hindex (Nat.lt_succ_self _)
        (ofFresh_injective hsame)
  refine ⟨hunused, ?_, ?_⟩
  · exact
      { hsound with
        requested := by
          intro datagram hmem
          obtain ⟨index, asked, hindex, hbytes⟩ :=
            hsound.requested datagram hmem
          exact ⟨index, asked, Nat.lt_succ_of_lt hindex, hbytes⟩ }
  · intro datagram hmem other hdecode hsame
    exact absurd hsame (hunused datagram hmem other hdecode)

/-- A request ends with the mapping that the NAT made, or it runs out of time;
in a responsive network only because the filter keeps the reply away. -/
theorem Sound.run_request {host : Host State}
    (hsound : network.Sound base host)
    (hdistinct : Distinct base (host.drawn + 1))
    {socket server source : Endpoint}
    (hsource : LeavesFrom base socket server source) {change : Change}
    (haccepts :
      change.accepts server (network.server.replier server change) = true)
    (settings : ExchangeSettings) :
    let datagram : Datagram :=
      ⟨socket, server,
        (Message.request (.ofFresh (base.transaction host.drawn))
          change).encode⟩
    ∃ outcome after later,
      (UdpExchange.request socket server change settings).run host =
          (outcome, after) ∧
        network.Sound base after ∧
        after.peers.sent = host.peers.sent ++ datagram :: later ∧
        (∀ other ∈ later, other = datagram) ∧
        after.drawn = host.drawn + 1 ∧ after.opened = host.opened ∧
        ((∃ other,
            outcome =
                .ok ⟨source, server, some (network.map socket server),
                  other⟩ ∧
              (server = network.server.primary →
                other = some network.server.other) ∧
              network.filter.Admits (contacted after.peers.sent socket)
                (network.server.replier server change)) ∨
          outcome = .error (.timeout server) ∧
            (network.Responsive settings after.peers.sent →
              ¬ network.filter.Admits
                (contacted (host.peers.sent ++ [datagram]) socket)
                (network.server.replier server change))) := by
  intro datagram
  obtain ⟨hunused, hexchanging⟩ :=
    hsound.exchanging hdistinct socket server change
  have hnew :
      (Host.newRequest change).run host =
        (.ok (Message.request (.ofFresh (base.transaction host.drawn))
            change),
          { host with drawn := host.drawn + 1 }) := by
    rw [Host.newRequest, Attempt.run_bind_of_ok (Attempt.run_always _ _),
      Host.drawTransaction, hsound.surroundings_eq]
    rfl
  obtain
    ⟨outcome, after, more, hrun, hafter, hmore, hall, hsome, hdrawn, hopened,
      hend⟩ :=
    hexchanging.run_exchange ⟨host.drawn, Nat.lt_succ_self _, rfl⟩ haccepts
      settings.timeout (settings.retries.toNat + 1)
  have hsent :
      ∃ later, after.peers.sent = host.peers.sent ++ datagram :: later ∧
        ∀ other ∈ later, other = datagram := by
    obtain ⟨first, later, rfl⟩ :=
      List.exists_cons_of_ne_nil (hsome (Nat.succ_pos _))
    refine ⟨later.map Prod.snd, ?_, ?_⟩
    · rw [hafter.sent_eq, hmore, List.map_append, List.map_cons,
        hsound.sent_eq, hall first List.mem_cons_self]
    · intro other hother
      obtain ⟨entry, hentry, rfl⟩ := List.mem_map.mp hother
      exact hall entry (List.mem_cons_of_mem _ hentry)
  obtain ⟨later, hlater, hsame⟩ := hsent
  rcases hend with ⟨count, reply, hreply, rfl, hadmits⟩ | ⟨rfl, hnotDue⟩
  · have hanswers :=
      network.answers _ _ _ hreply _ (decode_request _ change)
    obtain ⟨other, hbinding, hprimary⟩ := hanswers.binding_eq_ok source
    refine
      ⟨_, after, later, ?_, hafter, hlater, hsame, hdrawn, hopened,
        Or.inl ⟨other, rfl, hprimary, hadmits⟩⟩
    have hcheck :
        (Attempt.ofProtocol
            ((Message.request (.ofFresh (base.transaction host.drawn))
              change).check reply.2)).run after = (.ok (), after) := by
      rw [Attempt.run_ofProtocol, hanswers.check_eq_ok]
      rfl
    rw [UdpExchange.request, Attempt.run_bind_of_ok hnew,
      Attempt.run_bind_of_ok hrun, Attempt.run_bind_of_ok hcheck,
      Attempt.run_bind_of_ok (hafter.run_sourceTowards hsource),
      Attempt.run_ofProtocol, hbinding]
    rfl
  · refine
      ⟨_, after, later, ?_, hafter, hlater, hsame, hdrawn, hopened,
        Or.inr ⟨rfl, ?_⟩⟩
    · rw [UdpExchange.request, Attempt.run_bind_of_ok hnew,
        Attempt.run_bind_of_error hrun]
    · intro hresponsive hadmits
      rw [← replier_request network socket server
        (.ofFresh (base.transaction host.drawn)) change] at hadmits
      obtain ⟨attempt, hattempt, reply, hreply, hlt⟩ :=
        hresponsive _ _ _ hlater hadmits
      apply hnotDue
      have hcount : host.peers.sent.count datagram = 0 := by
        apply List.count_eq_zero_of_not_mem
        intro hmem
        exact hunused datagram hmem _ (decode_request _ change) rfl
      refine
        ⟨hadmits, Or.inl
          ⟨attempt, Nat.lt_succ_of_le hattempt, reply, ?_, hlt⟩⟩
      change reply ∈ network.replies datagram
        (host.peers.sent.count datagram + attempt)
      rw [hcount, Nat.zero_add]
      exact hreply

end NatNetwork

end Pinhole
