import Pinhole.Forward.TcpEngine
import Pinhole.Forward.UdpEngine
import Pinhole.Net.Host
import Pinhole.Transport

/-!
# Starting an engine on a host

An engine starts by binding its public socket.  Then the UDP engine needs its
own sockets, the one for pings connected to the mapping, and the TCP engine
dials the mapping.
-/

namespace Pinhole

variable {σ : Type}

/-- Any free port, on any address. -/
def anyEndpoint : Endpoint := ⟨.unspecified, 0⟩

/-- Binds the public socket of an engine, then starts it. -/
def bindingListener {α : Type} (origin : Endpoint)
    (start : Endpoint → StateM (Host σ) (Except ForwardError α)) :
    StateM (Host σ) (Except ForwardError α) := do
  match ← Host.bind origin with
  | .error cause => return .error (.bind origin cause)
  | .ok listener => start listener

namespace UdpEngine

/-- Connecting a datagram socket only needs a route. -/
def connectPing (mapped : Endpoint) :
    StateM (Host σ) (Except SystemError Unit) := do
  match ← Host.bind anyEndpoint with
  | .error cause => return .error cause
  | .ok _ =>
      let host ← get
      return (host.surroundings.route mapped).map fun _ => ()

/-- Binds the engine's own sockets and starts it. -/
def startOn (mapped : Endpoint) :
    StateM (Host σ) (Except ForwardError (UdpEngine × List Effect)) := do
  match ← Host.bind ⟨.loopback, 0⟩ with
  | .error cause => return .error (.system cause)
  | .ok _ =>
      let connected ← connectPing mapped
      let host ← get
      return launch connected host.now

/-- Binds the sockets of an engine and starts it. -/
def launchOn (origin mapped : Endpoint) :
    StateM (Host σ) (Except ForwardError (UdpEngine × List Effect)) :=
  bindingListener origin fun _ => startOn mapped

end UdpEngine

namespace TcpEngine

/-- Starts an engine and dials the mapping. -/
def startOn (mapped : Endpoint) :
    StateM (Host σ) (Except ForwardError (TcpEngine × List Effect)) := do
  let host ← get
  let (engine, effects) := start host.now
  let outcome ← Host.connect anyEndpoint mapped PingProber.dialLimit
  let host ← get
  let (outcome, later) :=
    match outcome with
    | none => engine.step host.now .tick
    | some result =>
        engine.step host.now (.dialled (result.map fun _ => ()))
  return outcome.map fun engine => (engine, effects ++ later)

/-- Binds the listener of an engine, starts it and dials the mapping. -/
def launchOn (origin mapped : Endpoint) :
    StateM (Host σ) (Except ForwardError (TcpEngine × List Effect)) :=
  bindingListener origin fun _ => startOn mapped

end TcpEngine

/-- An engine of either transport, with what it asked for when it started. -/
inductive Engine where
  | tcp (engine : TcpEngine) (effects : List TcpEngine.Effect)
  | udp (engine : UdpEngine) (effects : List UdpEngine.Effect)

namespace Engine

def transport : Engine → Transport
  | tcp .. => .tcp
  | udp .. => .udp

/-- Starts an engine whose public socket is bound. -/
def startOn (transport : Transport) (mapped : Endpoint) :
    StateM (Host σ) (Except ForwardError Engine) :=
  match transport with
  | .tcp => do
      return (← TcpEngine.startOn mapped).map fun (engine, effects) =>
        .tcp engine effects
  | .udp => do
      return (← UdpEngine.startOn mapped).map fun (engine, effects) =>
        .udp engine effects

/-- Starts an engine; the endpoint its public socket is bound to. -/
def launchOn (transport : Transport) (origin mapped : Endpoint) :
    StateM (Host σ) (Except ForwardError (Endpoint × Engine)) :=
  bindingListener origin fun listener => do
    return (← startOn transport mapped).map fun engine => (listener, engine)

end Engine

end Pinhole
