import Pinhole.Bytes
import Pinhole.Net.Clock
import Pinhole.Net.SocketAddress
import Pinhole.Net.SystemError

/-!
# A host and its surroundings

What a program on a host can observe of the network is determined by the
host's surroundings: which addresses can be bound, what a name resolves to,
and what comes back for what is sent.  The surroundings answer as a function
of what the peers remember, so a run of the program is determined by them.

Datagrams that are under way to a socket stand in its inbox with the instant
they arrive; a datagram stays there until it is read.  Of a stream connection
only what the peer sends is recorded, since no peer is told when its bytes are
read.
-/

namespace Pinhole

/-- What is sent from one endpoint to another. -/
structure Datagram where
  sender : Endpoint
  receiver : Endpoint
  bytes : Bytes
deriving DecidableEq, Repr

/-- Something that happens at a socket at an instant: a datagram arrives, or
reading fails. -/
structure Arrival where
  time : Instant
  datagram? : Option Datagram
deriving DecidableEq, Repr

/-- How a stream ends. -/
inductive StreamEnd where
  | closed
  | failed (cause : SystemError)
deriving DecidableEq, Repr

/-- What arrives on a stream: pieces in the order of time, and how the stream
ends, if it does, after the last of them. -/
structure Incoming where
  pieces : List (Instant × Bytes)
  ending? : Option (Instant × StreamEnd)
deriving DecidableEq, Repr

namespace Incoming

/-- A peer that sends nothing and keeps the connection open. -/
def silence : Incoming := ⟨[], none⟩

end Incoming

/-- The outcome of an attempt to connect. -/
inductive Handshake where
  /-- Completed at an instant, from the given local endpoint. -/
  | completed (time : Instant) (source : Endpoint)
  | failed (time : Instant) (cause : SystemError)
  | unanswered
deriving DecidableEq, Repr

/-- A call on a connection that the system may refuse. -/
inductive StreamCall where
  /-- To send small pieces without delay. -/
  | setNoDelay
  | write
  | localAddress
  /-- The system knows no peer any more once the connection was reset. -/
  | peerAddress
deriving DecidableEq, Repr

/-- A connection that reaches a listening socket. -/
structure Visit where
  time : Instant
  incoming : Incoming
deriving DecidableEq, Repr

/-- What a host's network does, given what the peers remember. -/
structure Surroundings (σ : Type) where
  /-- Why an endpoint cannot be bound at an instant, if it cannot. -/
  bindFault? : σ → Instant → Endpoint → Option SystemError
  /-- The port given to the n-th socket that asks for any port. -/
  freePort : Nat → UInt16
  /-- The random part of the n-th transaction identifier. -/
  transaction : Nat → Vector UInt8 12
  /-- The n-th random token. -/
  token : Nat → Vector UInt8 16
  /-- The addresses of a host name, or why there are none. -/
  addresses : String → Except String (List (Ipv4 ⊕ Ipv6))
  /-- The local address that packets to an endpoint leave from. -/
  route : Endpoint → Except SystemError Ipv4
  /-- What a datagram sent at an instant brings back. -/
  deliver : σ → Instant → Datagram → Except SystemError (List Arrival × σ)
  /-- What an attempt to connect from one endpoint to another comes to. -/
  connect : σ → Instant → Endpoint → Endpoint → Handshake × σ
  /-- What the peer sends on a connection after it was sent some bytes. -/
  converse : σ → Instant → Endpoint → Endpoint → Bytes → Incoming × σ
  /-- The connections that reach a listener while a public endpoint is dialled
  and sent some bytes. -/
  visits : σ → Instant → Endpoint → Endpoint → Bytes → List Visit × σ
  /-- Why a call on the connection from one endpoint to another fails at an
  instant, if it does. -/
  streamFault? : σ → Instant → Endpoint → Endpoint → StreamCall →
    Option SystemError := fun _ _ _ _ _ => none

/-- An endpoint can be bound whenever it is asked for. -/
def Surroundings.Binds {σ : Type} (surroundings : Surroundings σ)
    (requested : Endpoint) : Prop :=
  ∀ peers now, surroundings.bindFault? peers now requested = none

/-- The state of a host between two operations. -/
structure Host (σ : Type) where
  surroundings : Surroundings σ
  peers : σ
  now : Instant
  /-- What has arrived or will arrive at each socket and is not read yet. -/
  inbox : Endpoint → List Arrival
  /-- The datagrams sent so far, with the instants they were sent. -/
  sent : List (Instant × Datagram)
  /-- How many sockets asked for any port. -/
  opened : Nat
  /-- How many random values were drawn. -/
  drawn : Nat

namespace Host

variable {σ : Type}

/-- A host on which nothing has happened yet. -/
def start (surroundings : Surroundings σ) (peers : σ) : Host σ where
  surroundings := surroundings
  peers := peers
  now := 0
  inbox := fun _ => []
  sent := []
  opened := 0
  drawn := 0

/-- The random part of a new transaction identifier. -/
def drawTransaction : StateM (Host σ) (Vector UInt8 12) :=
  fun host =>
    (host.surroundings.transaction host.drawn,
      { host with drawn := host.drawn + 1 })

def drawToken : StateM (Host σ) (Vector UInt8 16) :=
  fun host =>
    (host.surroundings.token host.drawn,
      { host with drawn := host.drawn + 1 })

/-- Why an endpoint cannot be bound now, if it cannot. -/
def bindFault? (host : Host σ) (requested : Endpoint) : Option SystemError :=
  host.surroundings.bindFault? host.peers host.now requested

/-- Binds a socket and tells the endpoint it was given. -/
def bind (requested : Endpoint) :
    StateM (Host σ) (Except SystemError Endpoint) :=
  fun host =>
    match host.bindFault? requested with
    | some cause => (.error cause, host)
    | none =>
        if requested.port = 0 then
          (.ok ⟨requested.ip, host.surroundings.freePort host.opened⟩,
            { host with opened := host.opened + 1 })
        else (.ok requested, host)

/-- Puts an arrival into an inbox behind everything that is not later. -/
def enqueue (arrival : Arrival) : List Arrival → List Arrival
  | [] => [arrival]
  | first :: later =>
      if first.time ≤ arrival.time then first :: enqueue arrival later
      else arrival :: first :: later

/-- Sends a datagram.  What it brings back is put into the inbox of the
socket that each arrival is meant for; a failure to read is met by the socket
that sent. -/
def send (datagram : Datagram) :
    StateM (Host σ) (Except SystemError Unit) :=
  fun host =>
    match host.surroundings.deliver host.peers host.now datagram with
    | .error cause => (.error cause, host)
    | .ok (arrivals, peers) =>
        let inbox := arrivals.foldl
          (fun inbox arrival socket =>
            let reader :=
              (arrival.datagram?.map Datagram.receiver).getD datagram.sender
            if socket = reader then enqueue arrival (inbox socket)
            else inbox socket)
          host.inbox
        (.ok (),
          { host with
            peers := peers
            inbox := inbox
            sent := host.sent ++ [(host.now, datagram)] })

/-- Lets time pass until an instant, unless that has passed already. -/
def waitUntil (time : Instant) : StateM (Host σ) Unit :=
  fun host => ((), { host with now := max host.now time })

/-- What is left in a socket's inbox after reading. -/
def setInbox (socket : Endpoint) (arrivals : List Arrival) :
    StateM (Host σ) Unit :=
  fun host =>
    ((), { host with
      inbox := fun other =>
        if other = socket then arrivals else host.inbox other })

/-- Connects within a time limit; none if the limit passes.  What is known at
once is never too late. -/
def connect (source target : Endpoint) (limit : Duration) :
    StateM (Host σ) (Option (Except SystemError Endpoint)) :=
  fun host =>
    let (handshake, peers) :=
      host.surroundings.connect host.peers host.now source target
    let deadline := host.now + limit
    let finish (time : Instant) (outcome : Except SystemError Endpoint) :
        Option (Except SystemError Endpoint) × Host σ :=
      if time < deadline ∨ time ≤ host.now then
        (some outcome,
          { host with peers := peers, now := max host.now time })
      else (none, { host with peers := peers, now := deadline })
    match handshake with
    | .completed time given => finish time (.ok given)
    | .failed time cause => finish time (.error cause)
    | .unanswered => (none, { host with peers := peers, now := deadline })

/-- Why a call on a connection fails now, if it does. -/
def streamFault? (host : Host σ) (source target : Endpoint)
    (call : StreamCall) : Option SystemError :=
  host.surroundings.streamFault? host.peers host.now source target call

/-- Makes a call on a connection, with what it tells if it does not fail. -/
def callStream {α : Type} (source target : Endpoint) (call : StreamCall)
    (result : α) : StateM (Host σ) (Except SystemError α) :=
  fun host =>
    (match host.streamFault? source target call with
      | some cause => .error cause
      | none => .ok result, host)

/-- Sends bytes on a connection and tells what will arrive on it. -/
def converse (source target : Endpoint) (bytes : Bytes) :
    StateM (Host σ) Incoming :=
  fun host =>
    let (incoming, peers) :=
      host.surroundings.converse host.peers host.now source target bytes
    (incoming, { host with peers := peers })

/-- The connections that reach a listener while the public endpoint is
dialled. -/
def visits (listener mapped : Endpoint) (bytes : Bytes) :
    StateM (Host σ) (List Visit) :=
  fun host =>
    let (visits, peers) :=
      host.surroundings.visits host.peers host.now listener mapped bytes
    (visits, { host with peers := peers })

end Host

end Pinhole
