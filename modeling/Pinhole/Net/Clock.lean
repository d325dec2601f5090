/-!
# Time

An instant is a number of nanoseconds from an arbitrary origin, so it may be
negative; a duration is a number of nanoseconds.
-/

namespace Pinhole

abbrev Instant := Int

abbrev Duration := Nat

namespace Duration

def milliseconds (count : Nat) : Duration := count * 1000000

def seconds (count : Nat) : Duration := count * 1000000000

end Duration

/-- The time from `earlier` to `later`, or zero if `later` comes first. -/
def Instant.since (later earlier : Instant) : Duration :=
  (later - earlier).toNat

end Pinhole
