import FeedIndex.Timestamp.Basic
import FeedIndex.Timestamp.Calendar

/-!
# Times in a text column

A relational store writes a time as `2025-01-26 17:11:03.522+00:00` and compares times as texts. For the
years of four digits that is the order of time; a year outside them has a sign in front, which comes before
every digit. The fraction is left out or has three, six or nine digits; a leap second is second 60.
-/

namespace FeedIndex.Timestamp

/-- A number with zeros in front. -/
def padded (width n : Nat) : String :=
  let digits := Nat.toDigits 10 n
  String.ofList (List.replicate (width - digits.length) '0' ++ digits)

/-- A year: four digits, or a sign and at least four. -/
def yearText (year : Int) : String :=
  if 0 ≤ year ∧ year < 10000 then padded 4 year.toNat
  else (if year < 0 then "-" else "+") ++ padded 4 year.natAbs

/-- The fraction of a second. -/
def fractionText (nanos : Nat) : String :=
  if nanos = 0 then ""
  else if nanos % 1000000 = 0 then "." ++ padded 3 (nanos / 1000000)
  else if nanos % 1000 = 0 then "." ++ padded 6 (nanos / 1000)
  else "." ++ padded 9 nanos

/-- **columnText** — the time as a relational store writes it. -/
def columnText (t : Timestamp) : String :=
  let (year, month, day) := Calendar.dateOfDay (t.seconds.fdiv secondsPerDay)
  let ofDay := (t.seconds.fmod secondsPerDay).toNat
  let leap := nanosPerSecond ≤ t.nanos
  let second := ofDay % 60 + (if leap then 1 else 0)
  let nanos := if leap then t.nanos - nanosPerSecond else t.nanos
  yearText year ++ "-" ++ padded 2 month ++ "-" ++ padded 2 day ++ " " ++
    padded 2 (ofDay / 3600) ++ ":" ++ padded 2 (ofDay / 60 % 60) ++ ":" ++ padded 2 second ++
    fractionText nanos ++ "+00:00"

end FeedIndex.Timestamp
