import Pinhole.Forward.UdpEngine

/-!
# The calls for a datagram

A datagram is handled by one call of the system after another.  A client that
has no session needs a private socket first: the route is chosen, the endpoint
of the responder is asked for if the route leads there, a socket is bound and
connected, and only then is the session inserted, which chooses the route once
more.  If one of these calls fails, the datagram is given up where it is.  A
datagram that cannot be sent is given up too, but by then the session has noted
its activity.

The engine's events tell what all of this comes to.  Here the calls are spelled
out with the system's answers.
-/

namespace Pinhole

namespace UdpEngine

/-- How the system answers the calls that are made for one datagram. -/
structure Answers where
  responder : Except SystemError Endpoint
  bound : Except SystemError SocketId
  connected : Except SystemError Unit
  sent : Except SystemError Unit
deriving Repr

/-- Calls on an engine, with what was carried out.  They end at the first that
fails and cannot be done without; what was done before stays done. -/
abbrev Calls :=
  ExceptT SystemError (StateM (UdpEngine × List Effect))

namespace Calls

def demand {α : Type} (answer : Except SystemError α) : Calls α :=
  ExceptT.mk (pure answer)

def carryOut (effect : Effect) : Calls Unit :=
  modify fun (engine, done) => (engine, done ++ [effect])

/-- A call whose failure is passed over. -/
def attempt (answer : Except SystemError Unit) (effect : Effect) :
    Calls Unit :=
  match answer with
  | .ok () => carryOut effect
  | .error _ => return

def sessions : Calls SessionTable := do
  return (← get).1.sessions

def setSessions (table : SessionTable) : Calls Unit :=
  modify fun (engine, done) => ({ engine with sessions := table }, done)

end Calls

/-- A private socket that leads along a route. -/
def openSocket (answers : Answers) (route : Route) : Calls SocketId := do
  if route = .keepalive then
    let _ ← Calls.demand answers.responder
  let socket ← Calls.demand answers.bound
  Calls.demand answers.connected
  return socket

def openSession (now : Instant) (source : SocketAddress) (answers : Answers) :
    Calls Unit := do
  let route := (← Calls.sessions).upcomingRoute
  let socket ← openSocket answers route
  Calls.carryOut (.connectSession socket source route)
  Calls.setSessions ((← Calls.sessions).insert source socket now).1

def passOn (now : Instant) (source : SocketAddress) (payload : Bytes)
    (answers : Answers) : Calls Unit := do
  Calls.setSessions ((← Calls.sessions).touch source now)
  match (← Calls.sessions).get? source with
  | none => return
  | some session =>
      Calls.attempt answers.sent (.sendOnSession session.socket payload)

/-- The calls for a datagram of a client. -/
def relayFromClient (now : Instant) (source : SocketAddress) (payload : Bytes)
    (answers : Answers) : Calls Unit := do
  if ((← Calls.sessions).get? source).isNone then
    openSession now source answers
  passOn now source payload answers

/-- The calls for a datagram at the private socket of a source. -/
def relayFromSession (now : Instant) (source : SocketAddress)
    (payload : Bytes) (answers : Answers) : Calls Unit := do
  Calls.setSessions ((← Calls.sessions).touch source now)
  Calls.attempt answers.sent (.sendToClient source payload)

end UdpEngine

end Pinhole
