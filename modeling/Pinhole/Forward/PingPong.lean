import Pinhole.Forward.Keepalive

/-!
# The two ends of the keepalive connection

The prober connects to the public mapping, sends a ping, waits for anything to
come back, rests and sends the next.  The responder answers every piece of data
it reads with one pong.  Neither looks at what it reads.  Each waits only for a
limited time, and each ends at the first thing that goes wrong.

A wait is over when its result is there or, failing that, when its deadline has
passed; a result that is there at the deadline counts.
-/

namespace Pinhole

/-- What the end of a connection is told by the system. -/
inductive StreamEvent where
  /-- The connection is new, and the system refuses to send small pieces on it
  without delay. -/
  | unprepared (cause : SystemError)
  /-- Some bytes were read. -/
  | data
  /-- The other end sends no more. -/
  | ended
  | readFailed (cause : SystemError)
  | writeFailed (cause : SystemError)
  /-- Nothing but time. -/
  | tick
deriving DecidableEq, Repr

/-- What sends pings through the mapping. -/
inductive PingProber where
  /-- The connection is being made. -/
  | dialling (deadline : Instant)
  /-- A ping was sent and nothing came back yet. -/
  | waiting (deadline : Instant)
  /-- Until the next ping is due. -/
  | resting (wakeUp : Instant)
deriving DecidableEq, Repr

namespace PingProber

def dialLimit : Duration := .seconds 3

def replyLimit : Duration := .seconds 3

def start (now : Instant) : PingProber :=
  dialling (now + dialLimit)

def unreachable (cause : String) : ForwardError :=
  .lost "ping prober cannot reach mapping" cause

/-- The outcome of dialling.  The second part tells whether a ping is sent. -/
def connected (prober : PingProber) (now : Instant) :
    Except SystemError Unit → Except ForwardError PingProber × Bool
  | .error cause => (.error (unreachable cause.text), false)
  | .ok () =>
      match prober with
      | dialling _ => (.ok (waiting (now + replyLimit)), true)
      | waiting _ | resting _ => (.ok prober, false)

/-- What the prober does about an event; whether a ping is sent. -/
def step (prober : PingProber) (now : Instant) (event : StreamEvent) :
    Except ForwardError PingProber × Bool :=
  match prober, event with
  | dialling _, .unprepared cause => (.error (.system cause), false)
  | dialling deadline, _ =>
      if deadline ≤ now then
        (.error (unreachable "connect timed out"), false)
      else (.ok prober, false)
  | waiting _, .data => (.ok (resting (now + pingInterval)), false)
  | waiting _, .ended =>
      (.error (.lost "ping prober" "pong connection closed"), false)
  | waiting _, .readFailed cause | waiting _, .writeFailed cause =>
      (.error (.lost "ping prober" cause.text), false)
  | waiting deadline, .tick =>
      if deadline ≤ now then
        (.error (.lost "ping prober" "no pong within 3s"), false)
      else (.ok prober, false)
  | waiting _, .unprepared _ => (.ok prober, false)
  | resting wakeUp, _ =>
      if wakeUp ≤ now then (.ok (waiting (now + replyLimit)), true)
      else (.ok prober, false)

end PingProber

/-- What answers pings.  It waits for the next one until its deadline. -/
structure PongResponder where
  deadline : Instant
deriving DecidableEq, Repr

namespace PongResponder

def pingLimit : Duration := .seconds 15

def start (now : Instant) : PongResponder :=
  ⟨now + pingLimit⟩

/-- What the responder does about an event; whether a pong is sent. -/
def step (responder : PongResponder) (now : Instant) :
    StreamEvent → Except ForwardError PongResponder × Bool
  | .unprepared cause => (.error (.system cause), false)
  | .data => (.ok (start now), true)
  | .ended =>
      (.error (.lost "pong responder" "ping connection closed"), false)
  | .readFailed cause | .writeFailed cause =>
      (.error (.lost "pong responder" cause.text), false)
  | .tick =>
      if responder.deadline ≤ now then
        (.error (.lost "pong responder" "no ping within 15s"), false)
      else (.ok responder, false)

end PongResponder

end Pinhole
