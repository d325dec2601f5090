/-!
# Repeated messages

Polling loops repeat themselves.  A filter lets a message through when it is
first seen, and after that once in a given number of repetitions.
-/

namespace Pinhole

structure RepeatFilter where
  last : Option String
  /-- The messages offered since one was let through. -/
  repeats : UInt32
  maxRepeats : UInt32
deriving DecidableEq, Repr

namespace RepeatFilter

/-- For checks of the local service, every ten seconds. -/
def serviceChecks : UInt32 := 60

/-- For checks of the public mapping, every second. -/
def mappingChecks : UInt32 := 1800

def new (maxRepeats : UInt32) : RepeatFilter := ⟨none, 0, maxRepeats⟩

/-- Whether a message is let through. -/
def offer (filter : RepeatFilter) (message : String) :
    Bool × RepeatFilter :=
  let repeats := filter.repeats + 1
  if filter.last = some message ∧ repeats < filter.maxRepeats then
    (false, { filter with repeats := repeats })
  else (true, { filter with last := some message, repeats := 0 })

/-- Which of a sequence of messages are let through. -/
def run (filter : RepeatFilter) : List String → List Bool
  | [] => []
  | message :: later =>
      let (allowed, filter) := filter.offer message
      allowed :: filter.run later

end RepeatFilter

end Pinhole
