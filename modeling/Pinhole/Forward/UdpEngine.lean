import Pinhole.Forward.Periodic
import Pinhole.Forward.SessionTable
import Pinhole.Forward.Turns

/-!
# The UDP forward engine

Clients send to a public socket; each of them gets a private socket, whose
traffic with the client's destination is passed on unchanged in both
directions.  The destination of the first session is the engine's own
responder, that of all others the forward target.

An engine reacts to one event after another, each handled at an instant.  What
it does to the sockets is told as a list of effects.  Whether a private socket
could be opened is part of the event, since the system decides it; an effect
that fails changes nothing in the engine.  After every event both timers are
looked at: one closes idle sessions, the other sends pings and counts them.
The engine stops when the count says that the mapping is lost, and for no other
reason.
-/

namespace Pinhole

namespace UdpEngine

/-- How often the timers are looked at when nothing else happens. -/
def tickInterval : Duration := .milliseconds 100

def sweepInterval : Duration := .seconds 30

/-- How many bytes of a datagram the responder and the prober read. -/
def keepaliveLimit : Nat := 64

/-- How many bytes of any other datagram are read. -/
def receiveLimit : Nat := 65535

inductive Event where
  /-- A datagram at the public socket.  Should it start a session, `opened` is
  the private socket for it, or none if none can be had. -/
  | fromClient (source : SocketAddress) (payload : Bytes)
      (opened : Option SocketId)
  /-- A datagram at a private socket. -/
  | fromSession (socket : SocketId) (payload : Bytes)
  /-- A datagram at the responder. -/
  | atResponder (sender : Endpoint) (payload : Bytes)
  /-- A datagram at the ping socket. -/
  | atProber (payload : Bytes)
  /-- A socket could not be read. -/
  | readFailed
  /-- Nothing but time. -/
  | tick
deriving DecidableEq, Repr

inductive Effect where
  /-- A private socket is connected to the destination of its session. -/
  | connectSession (socket : SocketId) (source : SocketAddress) (route : Route)
  | sendOnSession (socket : SocketId) (payload : Bytes)
  | closeSession (socket : SocketId)
  | sendToClient (client : SocketAddress) (payload : Bytes)
  | sendPong (prober : Endpoint)
  | sendPing
deriving DecidableEq, Repr

end UdpEngine

structure UdpEngine where
  sessions : SessionTable
  pings : PingState
  pingTimer : Periodic
  sweepTimer : Periodic
  /-- Where the search for a readable session starts. -/
  cursor : Nat

namespace UdpEngine

/-- An engine at its start, which is announced by a few pings. -/
def start (now : Instant) : UdpEngine × List Effect :=
  ({ sessions := .empty
     pings := .new PingState.defaultMaxMissed
     pingTimer := .start pingInterval now
     sweepTimer := .start sweepInterval now
     cursor := 0 },
    List.replicate warmUpPings .sendPing)

/-- Starts an engine once its ping socket is connected to the mapping. -/
def launch (connected : Except SystemError Unit) (now : Instant) :
    Except ForwardError (UdpEngine × List Effect) :=
  match connected with
  | .ok () => .ok (start now)
  | .error cause => .error (.system cause)

/-- The private socket whose turn it is among those that can be read. -/
def nextReadable? (engine : UdpEngine) (readable : SocketId → Bool) :
    Option (SocketId × UdpEngine) :=
  (Turns.next? (fun entry => readable entry.2.socket)
      engine.sessions.entries engine.cursor).map
    fun (entry, cursor) => (entry.2.socket, { engine with cursor := cursor })

/-- A datagram of a source that has a session. -/
def forward (engine : UdpEngine) (now : Instant) (source : SocketAddress)
    (socket : SocketId) (payload : Bytes) : UdpEngine × List Effect :=
  ({ engine with sessions := engine.sessions.touch source now },
    [.sendOnSession socket payload])

/-- What a single event does, the timers left aside. -/
def handle (engine : UdpEngine) (now : Instant) :
    Event → UdpEngine × List Effect
  | .fromClient source payload opened =>
      let payload := payload.take receiveLimit
      match engine.sessions.get? source, opened with
      | some session, _ =>
          engine.forward now source session.socket payload
      | none, none => (engine, [])
      | none, some socket =>
          let route := engine.sessions.upcomingRoute
          let (sessions, _) := engine.sessions.insert source socket now
          let (engine, effects) :=
            { engine with sessions := sessions }.forward now source socket
              payload
          (engine, .connectSession socket source route :: effects)
  | .fromSession socket payload =>
      match engine.sessions.owner? socket with
      | none => (engine, [])
      | some source =>
          ({ engine with sessions := engine.sessions.touch source now },
            [.sendToClient source (payload.take receiveLimit)])
  | .atResponder sender payload =>
      if payload.take keepaliveLimit = ping then (engine, [.sendPong sender])
      else (engine, [])
  | .atProber payload =>
      if payload.take keepaliveLimit = pong then
        ({ engine with pings := engine.pings.onPong }, [])
      else (engine, [])
  | .readFailed | .tick => (engine, [])

/-- Closes idle sessions if it is time to look for them. -/
def sweepIfDue (engine : UdpEngine) (now : Instant) :
    UdpEngine × List Effect :=
  let (due, timer) := engine.sweepTimer.poll now
  let engine := { engine with sweepTimer := timer }
  if due then
    let (sessions, closed) := engine.sessions.sweep now
    ({ engine with sessions := sessions },
      closed.map fun entry => .closeSession entry.2.socket)
  else (engine, [])

/-- Counts and sends a ping if it is time for one.  The ping that makes the
mapping count as lost is not sent. -/
def pingIfDue (engine : UdpEngine) (now : Instant) :
    Except ForwardError UdpEngine × List Effect :=
  let (due, timer) := engine.pingTimer.poll now
  let engine := { engine with pingTimer := timer }
  if due then
    match engine.pings.onPing with
    | (some error, _) => (.error error, [])
    | (none, pings) => (.ok { engine with pings := pings }, [.sendPing])
  else (.ok engine, [])

/-- One event and the look at the timers that follows it. -/
def step (engine : UdpEngine) (now : Instant) (event : Event) :
    Except ForwardError UdpEngine × List Effect :=
  let (engine, handled) := engine.handle now event
  let (engine, swept) := engine.sweepIfDue now
  let (outcome, pinged) := engine.pingIfDue now
  (outcome, handled ++ swept ++ pinged)

/-- A sequence of events, up to the one that stops the engine. -/
def run (engine : UdpEngine) :
    List (Instant × Event) → Except ForwardError UdpEngine × List Effect
  | [] => (.ok engine, [])
  | (now, event) :: later =>
      match engine.step now event with
      | (.error error, effects) => (.error error, effects)
      | (.ok engine, effects) =>
          let (outcome, rest) := engine.run later
          (outcome, effects ++ rest)

end UdpEngine

end Pinhole
