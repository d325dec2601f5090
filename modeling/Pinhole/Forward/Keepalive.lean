import Pinhole.Bytes
import Pinhole.Forward.Error
import Pinhole.Net.Clock

/-!
# Keeping a mapping alive

An engine sends pings to its own public endpoint.  The first traffic that an
engine sees is therefore its own: the first session is routed to the engine's
responder, and every later one to the forward target.  Pings that stay
unanswered are counted; the mapping is lost when too many of them follow one
another.
-/

namespace Pinhole

/-- The bytes of "ping". -/
def ping : Bytes := [0x70, 0x69, 0x6e, 0x67]

/-- The bytes of "pong". -/
def pong : Bytes := [0x70, 0x6f, 0x6e, 0x67]

def pingInterval : Duration := .seconds 1

/-- How many pings are sent at once when an engine starts. -/
def warmUpPings : Nat := 3

/-- Where a session's traffic goes. -/
inductive Route where
  /-- To the responder of the engine itself. -/
  | keepalive
  /-- To the forward target. -/
  | target
deriving DecidableEq, Repr

/-- Gives out routes, the first of them for the keepalive. -/
structure Router where
  /-- How many routes were given out. -/
  assigned : UInt64
deriving DecidableEq, Repr

namespace Router

def new : Router := ⟨0⟩

/-- The route that is next. -/
def upcoming (router : Router) : Route :=
  if router.assigned = 0 then .keepalive else .target

/-- Gives out the next route. -/
def assign (router : Router) : Route × Router :=
  (router.upcoming, ⟨router.assigned + 1⟩)

end Router

/-- Counts the pings sent since the last pong. -/
structure PingState where
  missed : UInt32
  /-- The count at which the mapping is lost. -/
  maxMissed : UInt32
deriving DecidableEq, Repr

namespace PingState

def defaultMaxMissed : UInt32 := 5

def new (maxMissed : UInt32) : PingState := ⟨0, maxMissed⟩

/-- A ping is due.  The count goes up even when the mapping is lost. -/
def onPing (state : PingState) : Option ForwardError × PingState :=
  let missed := state.missed + 1
  let error? :=
    if state.maxMissed ≤ missed then
      some (.mappingLost s!"{missed} consecutive pings unanswered")
    else none
  (error?, { state with missed := missed })

/-- A pong makes up for all the pings before it. -/
def onPong (state : PingState) : PingState :=
  { state with missed := 0 }

end PingState

end Pinhole
