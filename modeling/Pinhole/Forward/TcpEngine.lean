import Pinhole.Forward.PingPong
import Pinhole.Forward.Splice

/-!
# The TCP forward engine

The engine's own prober dials the public mapping, so the first connection that
is accepted is its own and goes to the responder.  Every later one is spliced
to the forward target.  All of them are tasks beside the engine's loop, which
stops when it sees that the prober or the responder has ended, with the error
of the one that ended first, and never because of what a client or the target
does.

A failed accept, as when there are too many open files, makes the loop pause.
Nothing is accepted meanwhile, and the tasks run on, but nobody looks whether
one has ended.
-/

namespace Pinhole

namespace TcpEngine

/-- The number of an accepted connection. -/
abbrev ConnectionId := Nat

inductive Event where
  /-- The connection to the mapping was made, or failed. -/
  | dialled (outcome : Except SystemError Unit)
  | atProber (event : StreamEvent)
  | accepted (connection : ConnectionId)
  | acceptFailed (cause : SystemError)
  | atResponder (event : StreamEvent)
  | atSplice (connection : ConnectionId) (event : Splice.Event)
  /-- Nothing but time, for every part of the engine. -/
  | tick

inductive Effect where
  | dialMapping
  | sendPing
  | sendPong
  | connectTarget (connection : ConnectionId)
  | write (connection : ConnectionId) (direction : Direction) (bytes : Bytes)
  /-- Both connections of a splice are closed. -/
  | close (connection : ConnectionId)
deriving DecidableEq, Repr

end TcpEngine

structure TcpEngine where
  router : Router
  /-- The prober, or the error that it has ended with. -/
  prober : Except ForwardError PingProber
  /-- The responder, or the error that it has ended with, once there is one. -/
  responder : Option (Except ForwardError PongResponder)
  splices : List (TcpEngine.ConnectionId × Splice)
  /-- The error of the first of the two that has ended. -/
  ended? : Option ForwardError
  /-- When the pause after the last failed accept is over. -/
  pausedUntil? : Option Instant

namespace TcpEngine

/-- How long the engine pauses after a failed accept. -/
def acceptPause : Duration := .milliseconds 100

def start (now : Instant) : TcpEngine × List Effect :=
  ({ router := .new
     prober := .ok (.start now)
     responder := none
     splices := []
     ended? := none
     pausedUntil? := none },
    [.dialMapping])

/-- Passes an event on to a splice. -/
def stepSplice (now : Instant) (event : Splice.Event)
    (entry : ConnectionId × Splice) :
    List (ConnectionId × Splice) × List Effect :=
  let (connection, splice) := entry
  let (splice?, written) := splice.step now event
  let writes := (written.filter fun write => write.2 ≠ []).map
    fun (direction, bytes) => Effect.write connection direction bytes
  match splice? with
  | some splice => ([(connection, splice)], writes)
  | none => ([], writes ++ [.close connection])

/-- Passes an event on to those splices that it concerns. -/
def stepSplices (now : Instant) (event : Splice.Event)
    (concerned : ConnectionId → Bool) (splices : List (ConnectionId × Splice)) :
    List (ConnectionId × Splice) × List Effect :=
  let stepped := splices.map fun entry =>
    if concerned entry.1 then stepSplice now event entry else ([entry], [])
  (stepped.flatMap Prod.fst, stepped.flatMap Prod.snd)

/-- The error that a task has ended with, if it has. -/
def failure? {α : Type} : Except ForwardError α → Option ForwardError
  | .error error => some error
  | .ok _ => none

/-- What a task does in a turn, unless it has ended; whether it sends. -/
def stepTask {α : Type} (task : Except ForwardError α)
    (turn : α → Except ForwardError α × Bool) :
    Except ForwardError α × Bool :=
  match task with
  | .error error => (.error error, false)
  | .ok running => turn running

def stepProber (engine : TcpEngine)
    (turn : PingProber → Except ForwardError PingProber × Bool) :
    TcpEngine × List Effect :=
  let (prober, pings) := stepTask engine.prober turn
  ({ engine with
      prober := prober
      ended? := engine.ended?.or (failure? prober) },
    if pings then [.sendPing] else [])

def stepResponder (engine : TcpEngine) (now : Instant) (event : StreamEvent) :
    TcpEngine × List Effect :=
  match engine.responder with
  | none => (engine, [])
  | some task =>
      let (task, answers) := stepTask task fun responder =>
        responder.step now event
      ({ engine with
          responder := some task
          ended? := engine.ended?.or (failure? task) },
        if answers then [.sendPong] else [])

/-- What the prober and the responder do about an event. -/
def stepKeepalive (engine : TcpEngine) (now : Instant) :
    Event → TcpEngine × List Effect
  | .dialled outcome =>
      engine.stepProber fun prober => prober.connected now outcome
  | .atProber event => engine.stepProber fun prober => prober.step now event
  | .atResponder event => engine.stepResponder now event
  | .tick =>
      let (engine, pinged) :=
        engine.stepProber fun prober => prober.step now .tick
      let (engine, answered) := engine.stepResponder now .tick
      (engine, pinged ++ answered)
  | .accepted _ | .acceptFailed _ | .atSplice .. => (engine, [])

/-- What an event does to the listener and to the splices. -/
def stepConnections (engine : TcpEngine) (now : Instant) :
    Event → TcpEngine × List Effect
  | .accepted connection =>
      let (route, router) := engine.router.assign
      let engine := { engine with router := router }
      match route with
      | .keepalive =>
          ({ engine with responder := some (.ok (.start now)) }, [])
      | .target =>
          ({ engine with
              splices := engine.splices ++ [(connection, .start now)] },
            [.connectTarget connection])
  | .acceptFailed _ =>
      ({ engine with pausedUntil? := some (now + acceptPause) }, [])
  | .atSplice connection event =>
      let (splices, effects) :=
        stepSplices now event (· = connection) engine.splices
      ({ engine with splices := splices }, effects)
  | .tick =>
      let (splices, effects) :=
        stepSplices now .tick (fun _ => true) engine.splices
      ({ engine with splices := splices }, effects)
  | .dialled _ | .atProber _ | .atResponder _ => (engine, [])

/-- Whether the loop looks for ended tasks in a turn.  It does not when it deals
with an accept, what happens at a splice does not wake it, and nothing does
before its pause is over. -/
def looks (engine : TcpEngine) (now : Instant) : Event → Bool
  | .accepted _ | .acceptFailed _ | .atSplice .. => false
  | .dialled _ | .atProber _ | .atResponder _ | .tick =>
      engine.pausedUntil?.all fun time => time ≤ now

/-- What one event does. -/
def step (engine : TcpEngine) (now : Instant) (event : Event) :
    Except ForwardError TcpEngine × List Effect :=
  let (engine, sent) := engine.stepKeepalive now event
  match if engine.looks now event then engine.ended? else none with
  | some error => (.error error, sent)
  | none =>
      let (engine, effects) := engine.stepConnections now event
      (.ok engine, sent ++ effects)

/-- A sequence of events, up to the one that stops the engine. -/
def run (engine : TcpEngine) :
    List (Instant × Event) → Except ForwardError TcpEngine × List Effect
  | [] => (.ok engine, [])
  | (now, event) :: later =>
      match engine.step now event with
      | (.error error, effects) => (.error error, effects)
      | (.ok engine, effects) =>
          let (outcome, rest) := engine.run later
          (outcome, effects ++ rest)

end TcpEngine

end Pinhole
