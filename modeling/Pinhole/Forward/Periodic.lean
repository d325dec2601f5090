import Pinhole.Net.Clock

/-!
# Periodic timers

A timer fires when it is polled at or after the instant it is set to.  It is
then set to one period after the poll, so periods that were missed are not made
up for.
-/

namespace Pinhole

structure Periodic where
  period : Duration
  next : Instant
deriving DecidableEq, Repr

namespace Periodic

/-- A timer that fires for the first time after one period. -/
def start (period : Duration) (now : Instant) : Periodic :=
  ⟨period, now + period⟩

/-- Polls a timer: whether it fires, and the timer afterwards. -/
def poll (timer : Periodic) (now : Instant) : Bool × Periodic :=
  if now < timer.next then (false, timer)
  else (true, { timer with next := now + timer.period })

end Periodic

end Pinhole
