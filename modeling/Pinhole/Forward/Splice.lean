import Pinhole.Bytes
import Pinhole.Net.Clock

/-!
# Splicing two connections

A splice connects a client's connection with one to the forward target and
copies bytes both ways.  Each direction is a pipe: what was read and is not yet
written waits in it.  A pipe ends when the end of the stream has been read and
everything in it is written, or when reading or writing fails.  The splice ends
with the first of its pipes, and then both connections are closed.
-/

namespace Pinhole

/-- What happens at the two ends of a pipe. -/
inductive PipeEvent where
  | read (bytes : Bytes)
  | endOfStream
  | readFailed
  /-- The writing end took the first `count` of the waiting bytes. -/
  | wrote (count : Nat)
  | writeFailed
deriving DecidableEq, Repr

/-- One direction of a splice. -/
structure Pipe where
  /-- What was read and is not yet written. -/
  waiting : Bytes
  /-- Whether the end of the stream was read. -/
  drained : Bool
deriving DecidableEq, Repr

namespace Pipe

def empty : Pipe := ⟨[], false⟩

/-- The pipe after an event, or none if it ends, with the bytes that were
written. -/
def step (pipe : Pipe) : PipeEvent → Option Pipe × Bytes
  | .read bytes =>
      if pipe.drained then (some pipe, [])
      else (some { pipe with waiting := pipe.waiting ++ bytes }, [])
  | .endOfStream =>
      if pipe.waiting = [] then (none, [])
      else (some { pipe with drained := true }, [])
  | .wrote count =>
      let rest := pipe.waiting.drop count
      let written := pipe.waiting.take count
      if pipe.drained ∧ rest = [] then (none, written)
      else (some { pipe with waiting := rest }, written)
  | .readFailed | .writeFailed => (none, [])

end Pipe

/-- The two directions of a splice. -/
inductive Direction where
  | toTarget
  | toClient
deriving DecidableEq, Repr

inductive Splice where
  /-- The target is being connected to. -/
  | connecting (deadline : Instant)
  | copying (toTarget toClient : Pipe)
deriving DecidableEq, Repr

namespace Splice

def connectLimit : Duration := .seconds 5

inductive Event where
  /-- The connection to the target was made, or failed. -/
  | connected (success : Bool)
  | pipe (direction : Direction) (event : PipeEvent)
  | tick
deriving DecidableEq, Repr

def start (now : Instant) : Splice :=
  connecting (now + connectLimit)

/-- The splice after an event, or none if it ends, with the bytes that were
written and where to. -/
def step (splice : Splice) (now : Instant) (event : Event) :
    Option Splice × List (Direction × Bytes) :=
  match splice, event with
  | connecting _, .connected true => (some (copying .empty .empty), [])
  | connecting _, .connected false => (none, [])
  | connecting deadline, _ =>
      if deadline ≤ now then (none, []) else (some splice, [])
  | copying toTarget toClient, .pipe .toTarget event =>
      let (pipe?, written) := toTarget.step event
      (pipe?.map (copying · toClient), [(.toTarget, written)])
  | copying toTarget toClient, .pipe .toClient event =>
      let (pipe?, written) := toClient.step event
      (pipe?.map (copying toTarget ·), [(.toClient, written)])
  | copying _ _, .connected _ | copying _ _, .tick => (some splice, [])

end Splice

end Pinhole
