import Pinhole.Dns.Record
import Pinhole.Net.Clock

/-!
# Publishing with retries

A publication calls its provider until a call succeeds or the allowed number of
calls has been made, with a pause after every failure but the last.
-/

namespace Pinhole

/-- A publication with the number of calls it may still make, one that is
under way included, and the end of its pause if it pauses. -/
structure Publication where
  record : DnsRecord
  callsLeft : Nat
  pause : Option Instant
deriving DecidableEq, Repr

namespace Publication

/-- How many calls a supervisor allows. -/
def supervisedCalls : UInt32 := 3

/-- How long a supervisor's publication pauses. -/
def supervisedPause : Duration := .seconds 3

/-- What becomes of a publication. -/
inductive Progress where
  | published
  | gaveUp
  | under (publication : Publication)
deriving DecidableEq, Repr

/-- A publication whose first call is under way, unless no call is allowed. -/
def start (record : DnsRecord) (calls : UInt32) : Progress :=
  if calls = 0 then .gaveUp else .under ⟨record, calls.toNat, none⟩

/-- A call was answered. -/
def answered (publication : Publication) (now : Instant) (pause : Duration)
    (success : Bool) : Progress :=
  if success then .published
  else if publication.callsLeft ≤ 1 then .gaveUp
  else
    .under { publication with
      callsLeft := publication.callsLeft - 1
      pause := some (now + pause) }

/-- Whether the pause is over, and then the publication with its next call
under way. -/
def resume? (publication : Publication) (now : Instant) :
    Option Publication :=
  match publication.pause with
  | some wakeUp =>
      if wakeUp ≤ now then some { publication with pause := none } else none
  | none => none

/-- The course of a publication whose calls are answered at once: the instants
of its calls, whether it succeeds, and when it ends. -/
structure Course where
  calls : List Instant
  published : Bool
  finish : Instant
deriving DecidableEq, Repr

/-- Makes one call after another; `success` tells the outcome of each call by
its number. -/
def course (pause : Duration) (success : Nat → Bool) :
    (call callsLeft : Nat) → (now : Instant) → Course
  | _, 0, now => ⟨[], false, now⟩
  | call, callsLeft + 1, now =>
      if success call then ⟨[now], true, now⟩
      else if callsLeft = 0 then ⟨[now], false, now⟩
      else
        let rest := course pause success (call + 1) callsLeft (now + pause)
        { rest with calls := now :: rest.calls }

/-- The course of a whole publication. -/
def courseOf (calls : UInt32) (pause : Duration) (success : Nat → Bool) :
    Course :=
  course pause success 0 calls.toNat 0

end Publication

end Pinhole
