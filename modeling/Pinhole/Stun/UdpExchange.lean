import Pinhole.Stun.Attempt

/-!
# A binding exchange over UDP

The request is sent, and the socket is read until a datagram answers it or the
time of the attempt is over; then the same request is sent again, as often as
the settings allow.  A datagram answers if it can be read as a message, carries
the request's transaction identifier and comes from the endpoint the change
asks for; everything else is passed over.  The first answer decides.
-/

namespace Pinhole

namespace UdpExchange

/-- How many bytes of a datagram are read. -/
def receiveLimit : Nat := 1500

/-- The message by which a datagram answers a request, if it does. -/
def answer? (request : Message) (server : Endpoint) (change : Change)
    (datagram : Datagram) : Option Message :=
  match Message.decode (datagram.bytes.take receiveLimit) with
  | .error _ => none
  | .ok message =>
      if message.transaction = request.transaction ∧
          change.accepts server datagram.sender then some message
      else none

/-- How a wait for an answer ends. -/
inductive Wait where
  | answered (time : Instant) (message : Message)
  /-- The socket could not be read. -/
  | failed (time : Instant)
  | silent
deriving DecidableEq, Repr

/-- Reads what arrives before the deadline up to the first answer.  The second
part is what stays unread. -/
def listen (answer? : Datagram → Option Message) (deadline : Instant) :
    List Arrival → Wait × List Arrival
  | [] => (.silent, [])
  | arrival :: later =>
      if arrival.time < deadline then
        match arrival.datagram? with
        | none => (.failed arrival.time, later)
        | some datagram =>
            match answer? datagram with
            | some message => (.answered arrival.time message, later)
            | none => listen answer? deadline later
      else (.silent, arrival :: later)

variable {σ : Type}

/-- Waits for an answer at a socket until the deadline, and lets the time pass
that this takes. -/
def await (socket : Endpoint) (answer? : Datagram → Option Message)
    (deadline : Instant) : StateM (Host σ) Wait := do
  let host ← get
  let (wait, unread) := listen answer? deadline (host.inbox socket)
  Host.setInbox socket unread
  match wait with
  | .answered time _ => Host.waitUntil time
  | .failed time => Host.waitUntil time
  | .silent => Host.waitUntil deadline
  return wait

/-- Sends the request up to `attempts` times, each time waiting for an
answer. -/
def exchange (socket server : Endpoint) (change : Change)
    (timeout : Duration) (request : Message) :
    (attempts : Nat) → Attempt (Host σ) Message
  | 0 => throw (.timeout server)
  | attempts + 1 => do
      Attempt.ofSystem .system
        (Host.send ⟨socket, server, request.encode⟩)
      let host ← get
      let wait ← Attempt.always
        (await socket (answer? request server change) (host.now + timeout))
      match wait with
      | .answered _ message => return message
      | .failed _ | .silent =>
          exchange socket server change timeout request attempts

/-- The endpoint requests to `server` leave from.  A socket bound to no address
in particular uses the one its packets are routed from. -/
def sourceTowards (socket server : Endpoint) : Attempt (Host σ) Endpoint := do
  if socket.ip ≠ .unspecified then return socket
  let host ← get
  match host.surroundings.route server with
  | .ok ip => return ⟨ip, socket.port⟩
  | .error cause => throw (.system cause)

/-- One exchange from a bound socket. -/
def request (socket server : Endpoint) (change : Change)
    (settings : ExchangeSettings) : Attempt (Host σ) Binding := do
  let request ← Host.newRequest change
  let answer ← exchange socket server change settings.timeout request
    (settings.retries.toNat + 1)
  Attempt.ofProtocol (request.check answer)
  let source ← sourceTowards socket server
  Attempt.ofProtocol (Binding.ofAnswer source server answer)

end UdpExchange

end Pinhole
