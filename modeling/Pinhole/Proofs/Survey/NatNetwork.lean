import Mathlib.Data.List.Basic
import Pinhole.Proofs.Net.Inbox
import Pinhole.Proofs.Stun.Listening
import Pinhole.Proofs.Stun.RoundTrip

/-!
# A network with a NAT and a server behind it

The surroundings of a host that reaches a server through a NAT.  The NAT gives
a socket an endpoint for each peer and lets a reply through if its filter admits
the replier, given whom the socket has sent to by the time the reply arrives.
The network loses, delays and repeats datagrams as it likes: for each sending of
a request it may bring back any number of replies at any time.

A reply that the filter does not admit yet is held until it arrives, since the
socket may contact the replier in the meantime.

The invariant is that everything in an inbox is a reply to something that was
sent, from somebody whom the filter admits.
-/

namespace Pinhole

/-! ## The server -/

/-- The change of the reply's source that a request asks for. -/
def Message.requestedChange (request : Message) : Change :=
  let asked? := request.attributes.find? fun item =>
    item.type = Attribute.changeRequest
  match asked?.map Attribute.value with
  | some (a :: b :: c :: d :: _) =>
      .ofFlags (UInt32.ofNat
        ((Bytes.toWord a b).toNat * 65536 + (Bytes.toWord c d).toNat))
  | _ => .none

theorem Message.requestedChange_request (transaction : TransactionId)
    (change : Change) :
    (Message.request transaction change).requestedChange = change := by
  obtain ⟨ip, port⟩ := change
  cases ip <;> cases port <;> rfl

structure StunServer where
  primary : Endpoint
  other : Endpoint
  ip_ne : primary.ip ≠ other.ip
  port_ne : primary.port ≠ other.port

namespace StunServer

/-- Where the server answers from. -/
def replier (server : StunServer) (asked : Endpoint) (change : Change) :
    Endpoint :=
  if change = .none then asked
  else if change = .portOnly then ⟨server.primary.ip, server.other.port⟩
  else server.other

/-- What a reply to a request tells a client that is seen as `mapped`. -/
structure Answers (server : StunServer) (asked mapped : Endpoint)
    (request reply : Message) : Prop where
  type : reply.type = Message.bindingResponse
  transaction : reply.transaction = request.transaction
  mapped : reply.mappedAddress = .ok (some mapped)
  other : ∃ other, reply.otherAddress = .ok other ∧
    (asked = server.primary → other = some server.other)

theorem Answers.check_eq_ok {server : StunServer} {asked mapped : Endpoint}
    {request reply : Message}
    (hanswers : server.Answers asked mapped request reply) :
    request.check reply = .ok () := by
  have hclass : reply.messageClass ≠ .errorResponse := by
    rw [Message.messageClass, hanswers.type]
    decide
  rw [Message.check, if_neg (not_not.mpr hanswers.transaction),
    if_neg hclass, if_neg (not_not.mpr hanswers.type)]

theorem Answers.binding_eq_ok {server : StunServer} {asked mapped : Endpoint}
    {request reply : Message}
    (hanswers : server.Answers asked mapped request reply)
    (source : Endpoint) :
    ∃ other,
      Binding.ofAnswer source asked reply =
          .ok ⟨source, asked, some mapped, other⟩ ∧
        (asked = server.primary → other = some server.other) := by
  obtain ⟨other, hother, hprimary⟩ := hanswers.other
  refine ⟨other, ?_, hprimary⟩
  rw [Binding.ofAnswer, hanswers.mapped, hother]
  rfl

end StunServer

/-! ## The NAT -/

/-- Whose replies a NAT lets through to a socket. -/
inductive NatFilter where
  | endpointIndependent
  | addressDependent
  | addressAndPortDependent
deriving DecidableEq, Repr

namespace NatFilter

/-- Whether a reply is let through when the socket has sent to `contacted`. -/
def Admits (filter : NatFilter) (contacted : List Endpoint)
    (replier : Endpoint) : Prop :=
  match filter with
  | endpointIndependent => True
  | addressDependent => ∃ peer ∈ contacted, peer.ip = replier.ip
  | addressAndPortDependent => replier ∈ contacted

instance (filter : NatFilter) (contacted : List Endpoint)
    (replier : Endpoint) : Decidable (filter.Admits contacted replier) :=
  match filter with
  | endpointIndependent => inferInstanceAs (Decidable True)
  | addressDependent =>
      inferInstanceAs (Decidable (∃ peer ∈ contacted, peer.ip = replier.ip))
  | addressAndPortDependent =>
      inferInstanceAs (Decidable (replier ∈ contacted))

theorem Admits.of_subset {filter : NatFilter}
    {contacted more : List Endpoint} {replier : Endpoint}
    (hadmits : filter.Admits contacted replier)
    (hsubset : contacted ⊆ more) : filter.Admits more replier := by
  cases filter with
  | endpointIndependent => exact hadmits
  | addressDependent =>
      obtain ⟨peer, hpeer, hip⟩ := hadmits
      exact ⟨peer, hsubset hpeer, hip⟩
  | addressAndPortDependent => exact hsubset hadmits

theorem admits_of_mem (filter : NatFilter) {contacted : List Endpoint}
    {replier : Endpoint} (hmem : replier ∈ contacted) :
    filter.Admits contacted replier := by
  cases filter with
  | endpointIndependent => trivial
  | addressDependent => exact ⟨replier, hmem, rfl⟩
  | addressAndPortDependent => exact hmem

end NatFilter

/-! ## The network -/

structure NatNetwork where
  server : StunServer
  filter : NatFilter
  /-- The endpoint as which a socket is seen by a peer. -/
  map : Endpoint → Endpoint → Endpoint
  /-- What comes back for the n-th sending of a datagram, counted from zero,
  and how long it takes. -/
  replies : Datagram → Nat → List (Duration × Message)
  answers : ∀ datagram count, ∀ reply ∈ replies datagram count,
    ∀ request, Message.decode datagram.bytes = .ok request →
      server.Answers datagram.receiver
        (map datagram.sender datagram.receiver) request reply.2
  /-- A reply is no longer than the largest datagram that a client expects from
  a server, so a client that reads that many bytes reads all of it. -/
  length_reply : ∀ datagram count, ∀ reply ∈ replies datagram count,
    reply.2.encode.length ≤ UdpExchange.receiveLimit

namespace NatNetwork

/-- What the network remembers. -/
structure State where
  sent : List Datagram
  /-- Replies under way that the filter does not admit yet. -/
  held : List Arrival

/-- The endpoints that a socket has sent to. -/
def contacted (sent : List Datagram) (socket : Endpoint) : List Endpoint :=
  (sent.filter fun datagram => datagram.sender = socket).map
    Datagram.receiver

section Behaviour

variable (network : NatNetwork)

/-- Where the reply to a datagram comes from. -/
def replier (datagram : Datagram) : Endpoint :=
  match Message.decode datagram.bytes with
  | .error _ => datagram.receiver
  | .ok request =>
      network.server.replier datagram.receiver request.requestedChange

def arrival (now : Instant) (datagram : Datagram)
    (reply : Duration × Message) : Arrival :=
  ⟨now + reply.1,
    some ⟨network.replier datagram, datagram.sender, reply.2.encode⟩⟩

/-- Whether the filter lets an arrival through. -/
def admits (sent : List Datagram) (arrival : Arrival) : Bool :=
  match arrival.datagram? with
  | none => false
  | some datagram =>
      network.filter.Admits (contacted sent datagram.receiver)
        datagram.sender

/-- The replies under way once a datagram is sent. -/
def underway (state : State) (now : Instant) (datagram : Datagram) :
    List Arrival :=
  (state.held.filter fun arrival => now ≤ arrival.time) ++
    (network.replies datagram (state.sent.count datagram)).map
      (network.arrival now datagram)

def deliver (state : State) (now : Instant) (datagram : Datagram) :
    Except SystemError (List Arrival × State) :=
  let sent := state.sent ++ [datagram]
  let underway := network.underway state now datagram
  .ok (underway.filter (network.admits sent),
    ⟨sent, underway.filter fun arrival => !network.admits sent arrival⟩)

/-- The surroundings of a host in this network; all that has nothing to do with
datagrams is as in some other surroundings. -/
def surroundings (base : Surroundings State) : Surroundings State :=
  { base with deliver := network.deliver }

/-- A reply arrives no later than the last attempt of the exchange ends. -/
def Prompt (settings : ExchangeSettings) (datagram : Datagram) : Prop :=
  ∃ attempt ≤ settings.retries.toNat,
    ∃ reply ∈ network.replies datagram attempt,
      attempt * settings.timeout + reply.1 <
        (settings.retries.toNat + 1) * settings.timeout

/-- Each exchange whose reply the filter admits gets one in time. -/
def Responsive (settings : ExchangeSettings) (sent : List Datagram) : Prop :=
  ∀ before datagram after, sent = before ++ datagram :: after →
    network.filter.Admits
        (contacted (before ++ [datagram]) datagram.sender)
        (network.replier datagram) →
      network.Prompt settings datagram

end Behaviour

section Invariant

variable {network : NatNetwork} {base : Surroundings State}

/-- An arrival is a reply to a datagram. -/
def RepliesTo (network : NatNetwork) (datagram : Datagram)
    (arrival : Arrival) : Prop :=
  ∃ count, ∃ reply ∈ network.replies datagram count,
    arrival.datagram? =
      some ⟨network.replier datagram, datagram.sender, reply.2.encode⟩

theorem repliesTo_arrival (now : Instant) {datagram : Datagram} {count : Nat}
    {reply : Duration × Message}
    (hreply : reply ∈ network.replies datagram count) :
    network.RepliesTo datagram (network.arrival now datagram reply) :=
  ⟨count, reply, hreply, rfl⟩

theorem contacted_append_subset (sent more : List Datagram)
    (socket : Endpoint) :
    contacted sent socket ⊆ contacted (sent ++ more) socket := by
  intro peer hpeer
  rw [contacted, List.filter_append, List.map_append]
  exact List.mem_append_left _ hpeer

/-! ## The invariant -/

/-- What holds of a host between two operations. -/
structure Sound (network : NatNetwork) (base : Surroundings State)
    (host : Host State) : Prop where
  surroundings_eq : host.surroundings = network.surroundings base
  sent_eq : host.peers.sent = host.sent.map Prod.snd
  requested : ∀ datagram ∈ host.peers.sent, ∃ index change,
    index < host.drawn ∧
      datagram.bytes =
        (Message.request (.ofFresh (base.transaction index)) change).encode
  chronological : ∀ socket, Chronological (host.inbox socket)
  received : ∀ socket, ∀ arrival ∈ host.inbox socket,
    ∃ datagram ∈ host.peers.sent, datagram.sender = socket ∧
      network.RepliesTo datagram arrival ∧
        network.filter.Admits (contacted host.peers.sent socket)
          (network.replier datagram)
  held : ∀ arrival ∈ host.peers.held, ∃ datagram ∈ host.peers.sent,
    network.RepliesTo datagram arrival

theorem sound_start (network : NatNetwork) (base : Surroundings State) :
    network.Sound base (.start (network.surroundings base) ⟨[], []⟩) where
  surroundings_eq := rfl
  sent_eq := rfl
  requested := by simp [Host.start]
  chronological := fun _ => List.Pairwise.nil
  received := by simp [Host.start]
  held := by simp [Host.start]

theorem admits_of_repliesTo {sent : List Datagram} {datagram : Datagram}
    {arrival : Arrival} (hreplies : network.RepliesTo datagram arrival) :
    network.admits sent arrival = true ↔
      network.filter.Admits (contacted sent datagram.sender)
        (network.replier datagram) := by
  obtain ⟨count, reply, _, hdatagram⟩ := hreplies
  simp [admits, hdatagram]

theorem reader_of_repliesTo {datagram : Datagram} {arrival : Arrival}
    (hreplies : network.RepliesTo datagram arrival) (sender : Endpoint) :
    Host.reader sender arrival = datagram.sender := by
  obtain ⟨count, reply, _, hdatagram⟩ := hreplies
  simp [Host.reader, hdatagram]

def afterSending (network : NatNetwork) (host : Host State)
    (datagram : Datagram) : Host State :=
  let sent := host.peers.sent ++ [datagram]
  let underway := network.underway host.peers host.now datagram
  { host with
    peers :=
      ⟨sent, underway.filter fun arrival => !network.admits sent arrival⟩
    inbox :=
      Host.distribute datagram.sender
        (underway.filter (network.admits sent)) host.inbox
    sent := host.sent ++ [(host.now, datagram)] }

theorem mem_inbox_afterSending_of_mem {host : Host State}
    {datagram : Datagram} {arrival : Arrival} {socket : Endpoint}
    (hmem : arrival ∈ host.inbox socket) :
    arrival ∈ (afterSending network host datagram).inbox socket :=
  Host.mem_distribute.mpr (Or.inl hmem)

theorem arrival_mem_inbox_afterSending {host : Host State}
    {datagram : Datagram} {reply : Duration × Message}
    (hreply :
      reply ∈ network.replies datagram (host.peers.sent.count datagram))
    (hadmits :
      network.filter.Admits
        (contacted (host.peers.sent ++ [datagram]) datagram.sender)
        (network.replier datagram)) :
    network.arrival host.now datagram reply ∈
      (afterSending network host datagram).inbox datagram.sender := by
  have hreplies := repliesTo_arrival host.now hreply
  apply Host.mem_distribute.mpr
  right
  refine ⟨List.mem_filter.mpr ⟨?_, ?_⟩, reader_of_repliesTo hreplies _⟩
  · exact List.mem_append_right _ (List.mem_map.mpr ⟨reply, hreply, rfl⟩)
  · exact (admits_of_repliesTo hreplies).mpr hadmits

namespace Sound

variable {host : Host State}

theorem repliesTo_of_mem_underway (hsound : network.Sound base host)
    (now : Instant) {datagram : Datagram} {arrival : Arrival}
    (hmem : arrival ∈ network.underway host.peers now datagram) :
    ∃ origin ∈ host.peers.sent ++ [datagram],
      network.RepliesTo origin arrival := by
  rcases List.mem_append.mp hmem with hheld | hfresh
  · obtain ⟨origin, horigin, hreplies⟩ :=
      hsound.held arrival (List.mem_filter.mp hheld).1
    exact ⟨origin, List.mem_append_left _ horigin, hreplies⟩
  · obtain ⟨reply, hreply, rfl⟩ := List.mem_map.mp hfresh
    exact
      ⟨datagram, List.mem_append_right _ List.mem_cons_self,
        repliesTo_arrival now hreply⟩

theorem send_eq (hsound : network.Sound base host) (datagram : Datagram) :
    Host.send datagram host =
      (.ok (), afterSending network host datagram) := by
  apply Host.send_eq_ok
  rw [hsound.surroundings_eq]
  rfl

theorem afterSending_sound (hsound : network.Sound base host)
    {datagram : Datagram} {index : Nat} {change : Change}
    (hindex : index < host.drawn)
    (hbytes : datagram.bytes =
      (Message.request (.ofFresh (base.transaction index)) change).encode) :
    network.Sound base (afterSending network host datagram) where
  surroundings_eq := hsound.surroundings_eq
  sent_eq := by
    simp [afterSending, hsound.sent_eq]
  requested := by
    intro other hother
    rcases List.mem_append.mp hother with hold | hnew
    · exact hsound.requested other hold
    · rw [List.mem_singleton.mp hnew]
      exact ⟨index, change, hindex, hbytes⟩
  chronological := by
    intro socket
    exact Host.chronological_distribute _ (hsound.chronological _)
  received := by
    intro socket arrival hmem
    rcases Host.mem_distribute.mp hmem with hold | ⟨hnew, hreader⟩
    · obtain ⟨origin, horigin, hsender, hreplies, hadmits⟩ :=
        hsound.received socket arrival hold
      exact
        ⟨origin, List.mem_append_left _ horigin, hsender, hreplies,
          hadmits.of_subset (contacted_append_subset _ _ _)⟩
    · obtain ⟨hunderway, hadmits⟩ := List.mem_filter.mp hnew
      obtain ⟨origin, horigin, hreplies⟩ :=
        hsound.repliesTo_of_mem_underway host.now hunderway
      have hsender : origin.sender = socket := by
        rw [← hreader]
        exact (reader_of_repliesTo hreplies _).symm
      refine ⟨origin, horigin, hsender, hreplies, ?_⟩
      rw [← hsender]
      exact (admits_of_repliesTo hreplies).mp hadmits
  held := by
    intro arrival hmem
    exact
      hsound.repliesTo_of_mem_underway host.now (List.mem_filter.mp hmem).1

theorem heard (hsound : network.Sound base host) {socket : Endpoint}
    {unread : List Arrival} (hunread : unread.Sublist (host.inbox socket))
    (time : Instant) :
    network.Sound base (UdpExchange.heard host socket unread time) where
  surroundings_eq := hsound.surroundings_eq
  sent_eq := hsound.sent_eq
  requested := hsound.requested
  chronological := by
    intro other
    unfold UdpExchange.heard
    dsimp only
    split
    · exact (hsound.chronological socket).sublist hunread
    · exact hsound.chronological other
  received := by
    intro other arrival hmem
    unfold UdpExchange.heard at hmem
    dsimp only at hmem
    split at hmem
    · rename_i hsame
      rw [hsame]
      exact hsound.received socket arrival (hunread.subset hmem)
    · exact hsound.received other arrival hmem
  held := hsound.held

theorem isSome_datagram? (hsound : network.Sound base host)
    (socket : Endpoint) :
    ∀ arrival ∈ host.inbox socket, arrival.datagram?.isSome := by
  intro arrival hmem
  obtain ⟨origin, _, _, ⟨count, reply, _, hdatagram⟩, _⟩ :=
    hsound.received socket arrival hmem
  rw [hdatagram]
  rfl

end Sound

end Invariant

end NatNetwork

end Pinhole
