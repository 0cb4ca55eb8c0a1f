import FeedIndex.Proofs.Chronology
import FeedIndex.Proofs.Computation
import FeedIndex.Timestamp.Internet

/-!
# Times that are read back

A relational store writes a time as a text, and reads it back from there. `ofColumn?` is the reader: a date of which
the year may have a sign, a time of day with an optional fraction, and the offset of Greenwich. Every time of a clock
is read back as it was, in whatever year it lies and with whatever fraction, and so is a leap second at the end of a
minute. The times that records claim are such times.
-/

namespace FeedIndex

/-! ## Dates and days -/

namespace Calendar

/-- The years of an era that end with a leap day, counted from March, are those before a leap year. -/
theorem isLeap_of_last_day : ∀ year : Fin 400,
    yearOfEra (firstDay (year : Nat) + 365) = (year : Nat) → isLeap ((year : Nat) + 1) = true := by
  decide +kernel

theorem yearOfEra_mem (days : Int) : 0 ≤ yearOfEra (dayOfEra days) ∧ yearOfEra (dayOfEra days) < 400 := by
  have inEra := dayOfEra_mem days
  unfold yearOfEra
  omega

theorem dayNumber_dateInYear {era year day : Int} (inEra : 0 ≤ year ∧ year < 400) (inYear : 0 ≤ day ∧ day ≤ 365) :
    dayNumber (dateInYear (year + era * 400) day).1 (dateInYear (year + era * 400) day).2.1
      (dateInYear (year + era * 400) day).2.2 = era * 146097 + (firstDay year + day) - 719468 := by
  have eras : (year + era * 400).fdiv 400 = era := by
    rw [Int.fdiv_eq_ediv_of_nonneg _ (by omega)]
    omega
  -- the day is counted from March, so that a month up to February has the number of the year after, which the count
  -- of days takes back
  have number (month : Nat) (dayOfMonth : Nat) (march : Int)
      (shifted : (if month ≤ 2 then (month : Int) + 9 else (month : Int) - 3) = march)
      (counted : (153 * march + 2) / 5 + (dayOfMonth : Int) - 1 = day) :
      dayNumber (year + era * 400 + if (month : Int) ≤ 2 then 1 else 0) month dayOfMonth =
        era * 146097 + (firstDay year + day) - 719468 := by
    have back : (if month ≤ 2 then year + era * 400 + (if (month : Int) ≤ 2 then 1 else 0) - 1
        else year + era * 400 + (if (month : Int) ≤ 2 then 1 else 0)) = year + era * 400 := by
      split_ifs <;> omega
    unfold dayNumber firstDay
    dsimp only
    rw [back, eras, shifted, counted]
    omega
  unfold dateInYear
  dsimp only
  generalize counted : (5 * day + 2) / 153 = march
  obtain ⟨month, shifted⟩ : ∃ month : Nat, (month : Int) = if march < 10 then march + 3 else march - 9 :=
    ⟨_, Int.toNat_of_nonneg (by split_ifs <;> omega)⟩
  rw [← shifted, Int.toNat_natCast]
  refine number month _ march ?_ ?_
  · split_ifs at shifted ⊢ <;> omega
  · rw [Int.toNat_of_nonneg (by omega)]
    omega

/-- **The day of the date of a day is that day.** -/
theorem dayNumber_dateOfDay (days : Int) :
    dayNumber (dateOfDay days).1 (dateOfDay days).2.1 (dateOfDay days).2.2 = days := by
  rw [dateOfDay_eq]
  unfold marchYear
  rw [dayNumber_dateInYear (yearOfEra_mem days) (marchDay_mem days)]
  unfold marchDay dayOfEra
  omega

theorem isDate_dateInYear {year day : Int} (inYear : 0 ≤ day ∧ day ≤ 365)
    (last : day = 365 → isLeap (year + 1) = true) :
    isDate (dateInYear year day).1 (dateInYear year day).2.1 (dateInYear year day).2.2 = true := by
  unfold dateInYear isDate daysInMonth
  dsimp only
  rw [Bool.and_eq_true, decide_eq_true_iff, decide_eq_true_iff]
  generalize counted : (5 * day + 2) / 153 = march
  obtain ⟨low, high⟩ : 0 ≤ march ∧ march ≤ 11 := by omega
  rcases Int.lt_or_le day 365 with before | after
  -- the formula gives every month its length; February comes last, and its 29th day is day 365
  · interval_cases march <;> (simp; try split_ifs) <;> omega
  · obtain rfl : day = 365 := by omega
    obtain rfl : march = 11 := by omega
    simp [last]

theorem isLeap_add_era (year era : Int) : isLeap (year + era * 400) = isLeap year := by
  have four : (year + era * 400) % 4 = year % 4 := by omega
  have century : (year + era * 400) % 100 = year % 100 := by omega
  have whole : (year + era * 400) % 400 = year % 400 := by omega
  unfold isLeap
  rw [four, century, whole]

/-- The date of a day is a date. -/
theorem isDate_dateOfDay (days : Int) :
    isDate (dateOfDay days).1 (dateOfDay days).2.1 (dateOfDay days).2.2 = true := by
  have years := yearOfEra_mem days
  rw [dateOfDay_eq]
  refine isDate_dateInYear (marchDay_mem days) fun last => ?_
  have day : firstDay (yearOfEra (dayOfEra days)) + 365 = dayOfEra days := by
    rw [← last]
    unfold marchDay
    omega
  obtain ⟨year, same⟩ := Int.eq_ofNat_of_zero_le years.1
  have leap := isLeap_of_last_day ⟨year, by omega⟩
  rw [← same, day] at leap
  unfold marchYear
  rw [Int.add_right_comm, isLeap_add_era]
  exact leap rfl

end Calendar

/-! ## The reader -/

namespace Timestamp

/-- Digits at the head, at least one and at most so many, and the rest. -/
def upTo? (most : Nat) (cs : List Char) : Option (Nat × List Char) :=
  let digits := (cs.take most).takeWhile Char.isDigit
  if digits.isEmpty then none else some (Nat.ofDigitChars 10 digits 0, cs.drop digits.length)

/-- The year: four digits, or a sign and any number of them. -/
def yearAt? : List Char → Option (Int × List Char)
  | '-' :: rest => (upTo? rest.length rest).map fun (n, rest) => (-(n : Int), rest)
  | '+' :: rest => (upTo? rest.length rest).map fun (n, rest) => ((n : Int), rest)
  | cs => (upTo? 4 cs).map fun (n, rest) => ((n : Int), rest)

/-- The nanoseconds of an optional fraction; digits after the ninth are read over. -/
def nanosAt? : List Char → Option (Nat × List Char)
  | '.' :: rest => (upTo? 9 rest).map fun (n, rest') =>
      (n * 10 ^ (9 - (rest.length - rest'.length)), rest'.dropWhile Char.isDigit)
  | cs => some (0, cs)

/-- The rest after a character. -/
def after? (c : Char) : List Char → Option (List Char)
  | [] => none
  | d :: rest => if d = c then some rest else none

/-- The time of a date and a time of day in Greenwich, if they are such; second 60 is a leap second. -/
def ofParts? (year : Int) (month day hour minute second nanos : Nat) : Option Timestamp :=
  if !Calendar.isDate year month day || 24 ≤ hour || 60 ≤ minute || 61 ≤ second then none
  else
    let ofDay : Int := hour * 3600 + minute * 60 + min second 59
    some ⟨Calendar.dayNumber year month day * secondsPerDay + ofDay,
      if second = 60 then nanosPerSecond + nanos else nanos⟩

/-- **ofColumn?** — the time in a column. -/
def ofColumn? (column : String) : Option Timestamp := do
  let (year, rest) ← yearAt? column.toList
  let (month, rest) ← (after? '-' rest).bind (upTo? 2)
  let (day, rest) ← (after? '-' rest).bind (upTo? 2)
  let (hour, rest) ← (after? ' ' rest).bind (upTo? 2)
  let (minute, rest) ← (after? ':' rest).bind (upTo? 2)
  let (second, rest) ← (after? ':' rest).bind (upTo? 2)
  let (nanos, rest) ← nanosAt? rest
  if rest = "+00:00".toList then ofParts? year month day hour minute second nanos else none

/-! ### Digits -/

theorem length_digits (width n : Nat) : (digits width n).length = width := by
  induction width generalizing n with
  | zero => rfl
  | succ width ih => rw [digits, List.length_cons, ih]

theorem isDigit_digits {width n : Nat} (small : n < 10 ^ width) : ∀ c ∈ digits width n, c.isDigit = true := by
  induction width generalizing n with
  | zero => exact nofun
  | succ width ih =>
    have positive : 0 < 10 ^ width := by positivity
    have digit : n / 10 ^ width < 10 := by rwa [Nat.div_lt_iff_lt_mul positive, ← Nat.pow_succ']
    rw [digits, List.forall_mem_cons]
    exact ⟨by rw [Nat.isDigit_digitChar, decide_eq_true digit], ih (Nat.mod_lt n positive)⟩

theorem ofDigitChars_digits {width n : Nat} (small : n < 10 ^ width) (init : Nat) :
    Nat.ofDigitChars 10 (digits width n) init = init * 10 ^ width + n := by
  induction width generalizing n init with
  | zero =>
    obtain rfl : n = 0 := by simpa using small
    simp [digits, Nat.ofDigitChars]
  | succ width ih =>
    have positive : 0 < 10 ^ width := by positivity
    have digit : n / 10 ^ width < 10 := by rwa [Nat.div_lt_iff_lt_mul positive, ← Nat.pow_succ']
    rw [digits, Nat.ofDigitChars_cons, ih (Nat.mod_lt n positive)]
    have first : (n / 10 ^ width).digitChar.toNat - '0'.toNat = n / 10 ^ width :=
      Nat.toNat_digitChar_sub_48_of_lt_ten digit
    calc (10 * init + ((n / 10 ^ width).digitChar.toNat - '0'.toNat)) * 10 ^ width + n % 10 ^ width
        = init * 10 ^ (width + 1) + (10 ^ width * (n / 10 ^ width) + n % 10 ^ width) := by rw [first]; ring
      _ = init * 10 ^ (width + 1) + n := by rw [Nat.div_add_mod]

/-- **Digits are read off** up to what is no digit, or as many as are asked for. -/
theorem upTo?_append {most : Nat} {ds rest : List Char} (some_ : ds ≠ []) (all : ∀ c ∈ ds, c.isDigit = true)
    (fits : ds.length ≤ most) (ends : ds.length = most ∨ ∀ c ∈ rest.head?, c.isDigit = false) :
    upTo? most (ds ++ rest) = some (Nat.ofDigitChars 10 ds 0, rest) := by
  -- nothing after the digits is taken with them: there is no room for it, or it is no digit
  have others : (rest.take (most - ds.length)).takeWhile Char.isDigit = [] := by
    rcases ends with same | stops
    · rw [same, Nat.sub_self, List.take_zero, List.takeWhile_nil]
    · rcases rest with _ | ⟨c, rest⟩
      · rw [List.take_nil, List.takeWhile_nil]
      · rcases most - ds.length with _ | more
        · rw [List.take_zero, List.takeWhile_nil]
        · rw [List.take_succ_cons, List.takeWhile_cons_of_neg (by simp [stops c rfl])]
  have taken : ((ds ++ rest).take most).takeWhile Char.isDigit = ds := by
    rw [List.take_append, List.take_of_length_le fits, List.takeWhile_append_of_pos all, others, List.append_nil]
  unfold upTo?
  rw [taken]
  dsimp only
  rw [List.drop_left, if_neg (by simpa using some_)]

/-- A number is read back from as many digits as it is written with. -/
theorem upTo?_digits {width n : Nat} (small : n < 10 ^ (width + 1)) (rest : List Char) :
    upTo? (width + 1) (digits (width + 1) n ++ rest) = some (n, rest) := by
  have length := length_digits (width + 1) n
  have some_ : digits (width + 1) n ≠ [] := List.cons_ne_nil _ _
  rw [upTo?_append some_ (isDigit_digits small) (Nat.le_of_eq length) (.inl length), ofDigitChars_digits small,
    Nat.zero_mul, Nat.zero_add]

/-- A number that is padded has digits only, and they make the number, whatever its width. -/
theorem digits_of_padded (width n : Nat) :
    (padded width n).toList ≠ [] ∧ (∀ c ∈ (padded width n).toList, c.isDigit = true) ∧
      Nat.ofDigitChars 10 (padded width n).toList 0 = n := by
  have zeros (count : Nat) : Nat.ofDigitChars 10 (List.replicate count '0') 0 = 0 := by
    induction count with
    | zero => rfl
    | succ count ih => exact ih
  unfold padded
  rw [String.toList_ofList]
  refine ⟨?_, fun c listed => ?_, ?_⟩
  · exact List.append_ne_nil_of_right_ne_nil _ Nat.toDigits_ne_nil
  · rcases List.mem_append.mp listed with zero | digit
    · rw [(List.mem_replicate.mp zero).2]
      rfl
    · exact Nat.isDigit_of_mem_toDigits (by omega) (by omega) digit
  · rw [Nat.ofDigitChars_append, zeros, Nat.ofDigitChars_ten_toDigits]

/-- A padded number is read back up to the hyphen after it. -/
theorem upTo?_padded (width n : Nat) (rest : List Char) :
    upTo? ((padded width n).toList ++ '-' :: rest).length ((padded width n).toList ++ '-' :: rest) =
      some (n, '-' :: rest) := by
  obtain ⟨some_, all, number⟩ := digits_of_padded width n
  have stops : ∀ c ∈ ('-' :: rest).head?, c.isDigit = false := by
    rintro c ⟨⟩
    rfl
  rw [upTo?_append some_ all (by simp) (.inr stops), number]

/-- A year of four digits is read without a sign. -/
theorem yearAt?_digits {n : Nat} (small : n < 10 ^ 4) (rest : List Char) :
    yearAt? (digits 4 n ++ rest) = some ((n : Int), rest) := by
  have read := upTo?_digits small rest
  -- the first of the digits is no sign
  have digit := isDigit_digits small _ List.mem_cons_self
  rw [digits, List.cons_append] at read ⊢
  unfold yearAt?
  split
  · next same =>
    rw [(List.cons.inj same).1] at digit
    cases digit
  · next same =>
    rw [(List.cons.inj same).1] at digit
    cases digit
  · rw [read, Option.map_some]

theorem yearAt?_yearText (year : Int) (rest : List Char) :
    yearAt? ((yearText year).toList ++ '-' :: rest) = some (year, '-' :: rest) := by
  unfold yearText
  split
  · next plain =>
    have small : year.toNat < 10 ^ 4 := by omega
    rw [toList_padded small, yearAt?_digits small, Int.toNat_of_nonneg plain.1]
  · have signed := upTo?_padded 4 year.natAbs rest
    rw [String.toList_append, List.append_assoc]
    generalize (padded 4 year.natAbs).toList ++ '-' :: rest = cs at signed ⊢
    split
    · next negative =>
      show (upTo? cs.length cs).map _ = _
      rw [signed, Option.map_some]
      dsimp only
      rw [Int.ofNat_natAbs_of_nonpos (Int.le_of_lt negative), Int.neg_neg]
    · next positive =>
      show (upTo? cs.length cs).map _ = _
      rw [signed, Option.map_some]
      dsimp only
      rw [Int.natAbs_of_nonneg (Int.not_lt.mp positive)]

/-- The fraction and the offset are read back. -/
theorem nanosAt?_tail {nanos : Nat} (part : nanos < nanosPerSecond) :
    nanosAt? (tail nanos) = some (nanos, "+00:00".toList) := by
  rcases Nat.eq_zero_or_pos nanos with rfl | positive
  · rfl
  · obtain ⟨width, n, one, nine, small, value, text⟩ := tail_eq positive part
    have length := length_digits width n
    have some_ : digits width n ≠ [] := List.ne_nil_of_length_pos (by rwa [length])
    have stops : ∀ c ∈ "+00:00".toList.head?, c.isDigit = false := by
      rintro c ⟨⟩
      rfl
    rw [text]
    show (upTo? 9 (digits width n ++ "+00:00".toList)).map _ = _
    rw [upTo?_append some_ (isDigit_digits small) (length.trans_le nine) (.inr stops), ofDigitChars_digits small,
      Nat.zero_mul, Nat.zero_add, Option.map_some]
    dsimp only
    rw [List.length_append, Nat.add_sub_cancel, length]
    have scale : (10 : Nat) ^ 9 = 10 ^ (9 - width) * 10 ^ width := by rw [← Nat.pow_add, Nat.sub_add_cancel nine]
    have whole : n * 10 ^ (9 - width) = nanos := by
      rw [scale, ← Nat.mul_assoc] at value
      exact Nat.eq_of_mul_eq_mul_right (by positivity) value
    rw [whole]
    rfl

/-! ### Times of a clock -/

/-- A part of two digits after its separator. -/
theorem part?_digits (separator : Char) {n : Nat} (small : n < 100) (rest : List Char) :
    (after? separator (separator :: (digits 2 n ++ rest))).bind (upTo? 2) = some (n, rest) := by
  rw [after?, if_pos rfl, Option.bind_some]
  exact upTo?_digits small rest

/-- The parts of a time are read back from its column. -/
theorem ofColumn?_eq_ofParts? {t : Timestamp} (part : t.nanosOfSecond < nanosPerSecond) :
    ofColumn? t.columnText = ofParts? t.date.1 t.date.2.1 t.date.2.2 (t.secondOfDay / 3600) (t.secondOfDay / 60 % 60)
      t.secondOfMinute t.nanosOfSecond := by
  obtain ⟨month, day⟩ : t.date.2.1 < 100 ∧ t.date.2.2 < 100 := Calendar.dateOfDay_lt _
  have bound := t.secondOfDay_lt
  have hour : t.secondOfDay / 3600 < 100 := by omega
  have minute : t.secondOfDay / 60 % 60 < 100 := by omega
  unfold ofColumn?
  rw [toList_columnText, yearAt?_yearText]
  simp only [Option.bind_eq_bind, Option.bind_some, part?_digits '-' month, part?_digits '-' day,
    part?_digits ' ' hour, part?_digits ':' minute, part?_digits ':' t.secondOfMinute_lt, nanosAt?_tail part, if_true]

/-- A time is made of its parts. -/
theorem OnClock.ofParts?_eq {t : Timestamp} (clock : t.OnClock) :
    ofParts? t.date.1 t.date.2.1 t.date.2.2 (t.secondOfDay / 3600) (t.secondOfDay / 60 % 60) t.secondOfMinute
      t.nanosOfSecond = some t := by
  have bound := t.secondOfDay_lt
  have date : Calendar.isDate t.date.1 t.date.2.1 t.date.2.2 = true := Calendar.isDate_dateOfDay _
  have days : Calendar.dayNumber t.date.1 t.date.2.1 t.date.2.2 = t.seconds.fdiv secondsPerDay :=
    Calendar.dayNumber_dateOfDay _
  have ofDay : t.seconds = t.seconds.fdiv secondsPerDay * secondsPerDay + t.secondOfDay := by
    unfold secondOfDay secondsPerDay
    rw [Int.fdiv_eq_ediv_of_nonneg _ (by omega), Int.fmod_eq_emod_of_nonneg _ (by omega)]
    omega
  obtain ⟨small, second, nanos⟩ : t.secondOfMinute < 61 ∧ min t.secondOfMinute 59 = t.secondOfDay % 60 ∧
      (if t.secondOfMinute = 60 then nanosPerSecond + t.nanosOfSecond else t.nanosOfSecond) = t.nanos := by
    -- a leap second is written as second 60 and stands at second 59: the nanoseconds tell the two apart
    have leap := clock.second_of_leap
    unfold secondOfMinute nanosOfSecond
    split_ifs <;> omega
  unfold ofParts?
  rw [date, days, nanos, if_neg (by simp; omega)]
  dsimp only
  have seconds : t.seconds.fdiv secondsPerDay * secondsPerDay +
      ((t.secondOfDay / 3600 : Nat) * 3600 + (t.secondOfDay / 60 % 60 : Nat) * 60 + (min t.secondOfMinute 59 : Nat)) =
      t.seconds := by omega
  rw [seconds]

/-- **A time is read back from its column.** -/
theorem OnClock.ofColumn?_columnText {t : Timestamp} (clock : t.OnClock) : ofColumn? t.columnText = some t := by
  rw [ofColumn?_eq_ofParts? clock.nanosOfSecond_lt, clock.ofParts?_eq]

/-! ## Times that are claimed -/

open Handler (ok_of_bind)

/-- A check that is passed does not hold. -/
theorem ok_of_check {ε α : Type} {refused : Prop} [Decidable refused] {failure : ε} {next : Unit → Except ε α} {a : α}
    (passed : (if refused then throw failure >>= next else next ()) = .ok a) : ¬ refused ∧ next () = .ok a := by
  split at passed
  · cases passed
  · next free => exact ⟨free, passed⟩

theorem digit?_lt {b : UInt8} (digit : (digit? b).isSome = true) : b.toNat - 48 < 10 := by
  unfold digit? at digit
  split at digit
  · next range =>
    simp only [Bool.and_eq_true, decide_eq_true_eq, UInt8.le_iff_toNat_le] at range
    have upper : b.toNat ≤ 57 := range.2
    omega
  · cases digit

theorem fractionNanos_lt {digits : List UInt8} (all : ∀ b ∈ digits, (digit? b).isSome = true) :
    fractionNanos digits < nanosPerSecond := by
  -- the induction is on the digits that are left, whatever has been read before them
  have general (bs : List UInt8) (all : ∀ b ∈ bs, (digit? b).isSome = true) (start : Nat) :
      bs.foldl (fun n b => 10 * n + (b.toNat - 48)) start < (start + 1) * 10 ^ bs.length := by
    induction bs generalizing start with
    | nil => simp
    | cons b bs ih =>
      obtain ⟨first, others⟩ := List.forall_mem_cons.mp all
      have digit := digit?_lt first
      calc bs.foldl _ (10 * start + (b.toNat - 48))
          < (10 * start + (b.toNat - 48) + 1) * 10 ^ bs.length := ih others _
        _ ≤ (10 * (start + 1)) * 10 ^ bs.length := Nat.mul_le_mul_right _ (by omega)
        _ = (start + 1) * 10 ^ (bs.length + 1) := by ring
  have bound := general (digits.take 9) (fun b listed => all b (List.mem_of_mem_take listed)) 0
  have width : (digits.take 9).length + (9 - digits.length) = 9 := by
    rw [List.length_take]
    omega
  have scale : 10 ^ (digits.take 9).length * 10 ^ (9 - digits.length) = nanosPerSecond := by
    rw [← Nat.pow_add, width]
    rfl
  rw [Nat.zero_add, Nat.one_mul] at bound
  show _ * 10 ^ (9 - digits.length) < nanosPerSecond
  exact Nat.lt_of_lt_of_eq (Nat.mul_lt_mul_of_pos_right bound (by positivity)) scale

theorem nanos_of_fraction {bs rest : List UInt8} {nanos : Nat} (read : fraction bs = .ok (nanos, rest)) :
    nanos < nanosPerSecond := by
  unfold fraction at read
  split at read
  · split at read
    · cases read
    · split at read
      · cases read
        exact fractionNanos_lt (List.all_eq_true.mp List.all_takeWhile)
      · cases read
  · cases read
    decide

/-- Offsets are whole minutes. -/
theorem ahead_of_offset {bs rest : List UInt8} {ahead : Int} (read : offset bs = .ok (ahead, rest)) :
    ahead % 60 = 0 := by
  unfold offset at read
  split at read
  · cases read
    rfl
  · cases read
    rfl
  · obtain ⟨⟨west, bs⟩, -, read⟩ := ok_of_bind read
    obtain ⟨⟨hours, bs⟩, -, read⟩ := ok_of_bind read
    obtain ⟨bs, -, read⟩ := ok_of_bind read
    obtain ⟨⟨minutes, bs⟩, -, read⟩ := ok_of_bind read
    dsimp only at read
    split at read
    · cases read
    · cases read
      split <;> omega

/-- **A time that is read is one of a clock**: an offset is of whole minutes, and leaves a leap second where it is. -/
theorem onClock_of_read {s : String} {t : Timestamp} (read : Timestamp.read s = .ok t) : t.OnClock := by
  unfold Timestamp.read ofBytes at read
  dsimp only at read
  obtain ⟨-, read⟩ := ok_of_check read
  obtain ⟨year, -, read⟩ := ok_of_bind read
  obtain ⟨-, -, read⟩ := ok_of_bind read
  obtain ⟨month, -, read⟩ := ok_of_bind read
  obtain ⟨-, -, read⟩ := ok_of_bind read
  obtain ⟨day, -, read⟩ := ok_of_bind read
  obtain ⟨-, read⟩ := ok_of_check read
  obtain ⟨-, -, read⟩ := ok_of_bind read
  obtain ⟨hour, -, read⟩ := ok_of_bind read
  obtain ⟨-, -, read⟩ := ok_of_bind read
  obtain ⟨minute, -, read⟩ := ok_of_bind read
  obtain ⟨-, -, read⟩ := ok_of_bind read
  obtain ⟨second, -, read⟩ := ok_of_bind read
  obtain ⟨⟨nanos, rest⟩, fractional, read⟩ := ok_of_bind read
  obtain ⟨inRange, read⟩ := ok_of_check read
  obtain ⟨⟨ahead, rest'⟩, shifted, read⟩ := ok_of_bind read
  obtain ⟨-, read⟩ := ok_of_check read
  obtain ⟨-, read⟩ := ok_of_check read
  cases read
  have part := nanos_of_fraction fractional
  have minutes := ahead_of_offset shifted
  unfold nanosPerSecond at part
  refine ⟨?_, fun leap => ?_⟩
  · show (if second = 60 then 1000000000 + nanos else nanos) < 2 * 1000000000
    split <;> omega
  · change 1000000000 ≤ (if second = 60 then 1000000000 + nanos else nanos) at leap
    have last : second = 60 := by
      by_contra other
      rw [if_neg other] at leap
      omega
    rw [if_pos last]
    dsimp only
    unfold secondsPerDay
    omega

end Timestamp

end FeedIndex
