import FeedIndex.Timestamp.Basic
import FeedIndex.Timestamp.Calendar

/-!
# Times in the Internet format

Reads `2025-01-26T17:11:03.522Z`: a date, one of `T`, `t` or a space, a time of day with an optional
fraction, and an offset. The first nineteen bytes have fixed places. The date is checked as soon as it is
read and the time of day after its fraction; nothing may be left over, and how far the offset reaches is
checked last. Second 60 is a leap second in every minute.
-/

namespace FeedIndex.Timestamp

/-- **ReadError** — why a text is not a time. -/
inductive ReadError
  /-- A character stands where another is needed. -/
  | invalid
  /-- The text ends too early. -/
  | tooShort
  /-- A number is outside its range. -/
  | outOfRange
  /-- The time is complete and more text follows. -/
  | trailing
deriving DecidableEq, Repr

/-- **message** — the wording of the cause. -/
def ReadError.message : ReadError → String
  | .invalid => "input contains invalid characters"
  | .tooShort => "premature end of input"
  | .outOfRange => "input is out of range"
  | .trailing => "trailing input"

/-- The value of an ASCII digit. -/
def digit? (b : UInt8) : Option Nat := if 48 ≤ b && b ≤ 57 then some (b.toNat - 48) else none

/-- The number that the digits at the given places make. -/
def number (bs : List UInt8) (places : List Nat) : Except ReadError Nat :=
  places.foldlM (fun n place =>
    match (bs[place]?).bind digit? with
    | some d => .ok (10 * n + d)
    | none => .error .invalid) 0

/-- One of the given bytes stands at a place. -/
def sign (bs : List UInt8) (place : Nat) (allowed : List UInt8) : Except ReadError Unit :=
  match bs[place]? with
  | some b => if allowed.contains b then .ok () else .error .invalid
  | none => .error .invalid

/-- The nanoseconds of a fraction: its first nine digits, filled up with zeros. -/
def fractionNanos (digits : List UInt8) : Nat :=
  (digits.take 9).foldl (fun n b => 10 * n + (b.toNat - 48)) 0 * Nat.pow 10 (9 - digits.length)

/-- The optional fraction after the seconds, and the rest. -/
def fraction (bs : List UInt8) : Except ReadError (Nat × List UInt8) :=
  match bs with
  | 46 :: rest =>
    match rest with
    | [] => .error .tooShort
    | b :: _ =>
      if (digit? b).isSome then
        let isDigit := fun b => (digit? b).isSome
        .ok (fractionNanos (rest.takeWhile isDigit), rest.dropWhile isDigit)
      else .error .invalid
  | _ => .ok (0, bs)

/-- Two digits at the head, and the rest. -/
def twoDigits (bs : List UInt8) : Except ReadError (Nat × List UInt8) :=
  match bs with
  | a :: b :: rest =>
    match digit? a, digit? b with
    | some a, some b => .ok (10 * a + b, rest)
    | _, _ => .error .invalid
  | _ => .error .tooShort

/-- A colon at the head, and the rest. -/
def colon (bs : List UInt8) : Except ReadError (List UInt8) :=
  match bs with
  | 58 :: rest => .ok rest
  | _ :: _ => .error .invalid
  | [] => .error .tooShort

/-- The sign of an offset: true for west of Greenwich. U+2212 is a minus sign too. -/
def offsetSign (bs : List UInt8) : Except ReadError (Bool × List UInt8) :=
  match bs with
  | 43 :: rest => .ok (false, rest)
  | 45 :: rest => .ok (true, rest)
  | 0xE2 :: 0x88 :: 0x92 :: rest => .ok (true, rest)
  | _ :: _ => .error .invalid
  | [] => .error .tooShort

/-- **offset** — the offset from Greenwich in seconds, and the rest. -/
def offset (bs : List UInt8) : Except ReadError (Int × List UInt8) :=
  match bs with
  | 90 :: rest => .ok (0, rest)
  | 122 :: rest => .ok (0, rest)
  | _ => do
    let (west, bs) ← offsetSign bs
    let (hours, bs) ← twoDigits bs
    let bs ← colon bs
    let (minutes, bs) ← twoDigits bs
    if 60 ≤ minutes then .error .outOfRange
    else
      let seconds : Int := hours * 3600 + minutes * 60
      .ok (if west then -seconds else seconds, bs)

/-- The widest offset, 23:59. -/
def maxOffset : Int := 86340

/-- **ofBytes** — the time a text names, in the text's bytes. -/
def ofBytes (bs : List UInt8) : Except ReadError Timestamp := do
  if bs.length < 19 then throw .tooShort
  let year ← number bs [0, 1, 2, 3]
  sign bs 4 [45]
  let month ← number bs [5, 6]
  sign bs 7 [45]
  let day ← number bs [8, 9]
  if !Calendar.isDate year month day then throw .outOfRange
  sign bs 10 [84, 116, 32]
  let hour ← number bs [11, 12]
  sign bs 13 [58]
  let minute ← number bs [14, 15]
  sign bs 16 [58]
  let second ← number bs [17, 18]
  let (nanos, rest) ← fraction (bs.drop 19)
  if 24 ≤ hour || 60 ≤ minute || 61 ≤ second then throw .outOfRange
  let (ahead, rest) ← offset rest
  if !rest.isEmpty then throw .trailing
  if maxOffset < ahead || ahead < -maxOffset then throw .outOfRange
  let days := Calendar.dayNumber year month day
  let ofDay : Int := hour * 3600 + minute * 60 + (if second = 60 then 59 else second)
  return ⟨days * secondsPerDay + ofDay - ahead, if second = 60 then nanosPerSecond + nanos else nanos⟩

/-- **read** — the time a text names. -/
def read (s : String) : Except ReadError Timestamp := ofBytes s.toUTF8.toList

end FeedIndex.Timestamp
