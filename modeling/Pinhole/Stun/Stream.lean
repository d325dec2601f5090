import Pinhole.Net.Host

/-!
# Reading from a stream

A reader takes bytes from the front of a stream until it has what it wants,
whatever pieces they arrive in.  What it wants is a function of the bytes it
has got so far, so a frame whose length stands in its own header can be read.
Reading ends with the wanted bytes, with the end of the stream, or at the
deadline, whichever comes first.
-/

namespace Pinhole

namespace Incoming

/-- How reading from a stream ends. -/
inductive Read (α : Type) where
  | complete (time : Instant) (result : α)
  | ended (time : Instant) (how : StreamEnd)
  | late
deriving DecidableEq, Repr

/-- Reads until `complete?` finds what it wants in the bytes got so far. -/
def readPieces {α : Type} (complete? : Bytes → Option α)
    (deadline : Instant) (ending? : Option (Instant × StreamEnd))
    (got : Bytes) : List (Instant × Bytes) → Read α
  | [] =>
      match ending? with
      | none => .late
      | some (time, how) => if time < deadline then .ended time how else .late
  | (time, bytes) :: later =>
      if time < deadline then
        match complete? (got ++ bytes) with
        | some result => .complete time result
        | none => readPieces complete? deadline ending? (got ++ bytes) later
      else .late

def read {α : Type} (incoming : Incoming) (complete? : Bytes → Option α)
    (deadline : Instant) : Read α :=
  readPieces complete? deadline incoming.ending? [] incoming.pieces

/-- The first `count` bytes, once they are there. -/
def exactly? (count : Nat) (bytes : Bytes) : Option Bytes :=
  if (bytes.take count).length = count then some (bytes.take count) else none

end Incoming

end Pinhole
