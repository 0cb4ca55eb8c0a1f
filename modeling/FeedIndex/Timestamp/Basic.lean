/-!
# Points in time

A time is the second it lies in, counted from 1970, and the nanoseconds into that second. In a leap second
the nanoseconds go on past a full second while the second stays that of `:59`, so that a leap second has a
value of its own and still sorts before the next minute.
-/

namespace FeedIndex

/-- **Timestamp** — seconds since 1970-01-01T00:00:00Z and nanoseconds, which are a full second or more
exactly in a leap second. -/
structure Timestamp where
  seconds : Int
  nanos : Nat
deriving DecidableEq, Repr, Inhabited

namespace Timestamp

/-- Nanoseconds in a second. -/
def nanosPerSecond : Nat := 1000000000

/-- Seconds in a day. -/
def secondsPerDay : Int := 86400

end Timestamp

end FeedIndex
