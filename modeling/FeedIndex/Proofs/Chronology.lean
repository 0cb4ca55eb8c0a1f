import FeedIndex.Timestamp.Column
import Mathlib.Tactic.Common
import Mathlib.Tactic.IntervalCases
import Mathlib.Tactic.Linarith
import Mathlib.Tactic.Ring

/-!
# The order of times and of their texts

A relational store compares times by their texts. Among the times of a clock, in years of four digits, an earlier time
has a text that comes first: the text writes the parts of a time with the greatest first, each with as many digits as
it can have. Only the fraction has fewer where it ends in zeros; the sign that follows it comes before every digit.
-/

namespace FeedIndex

/-! ## Dates in order -/

namespace Calendar

/-- The era of 400 years in which a day lies. -/
def era (days : Int) : Int := (days + 719468).fdiv 146097

/-- The day counted from the start of its era. -/
def dayOfEra (days : Int) : Int := days + 719468 - era days * 146097

/-- The year of an era in which a day of the era lies. -/
def yearOfEra (day : Int) : Int := (day - day / 1460 + day / 36524 - day / 146096) / 365

/-- The first day of a year of an era. -/
def firstDay (year : Int) : Int := 365 * year + year / 4 - year / 100

/-- The year in which a day lies, counted from March. -/
def marchYear (days : Int) : Int := yearOfEra (dayOfEra days) + era days * 400

/-- The day counted from the first of March. -/
def marchDay (days : Int) : Int := dayOfEra days - firstDay (yearOfEra (dayOfEra days))

/-- The date of a day of a year, both counted from March. -/
def dateInYear (year day : Int) : Int × Nat × Nat :=
  let monthFromMarch := (5 * day + 2) / 153
  let month := if monthFromMarch < 10 then monthFromMarch + 3 else monthFromMarch - 9
  (year + (if month ≤ 2 then 1 else 0), month.toNat, (day - (153 * monthFromMarch + 2) / 5 + 1).toNat)

theorem dateOfDay_eq (days : Int) : dateOfDay days = dateInYear (marchYear days) (marchDay days) := rfl

theorem dayOfEra_mem (days : Int) : 0 ≤ dayOfEra days ∧ dayOfEra days < 146097 := by
  unfold dayOfEra era
  rw [Int.fdiv_eq_ediv_of_nonneg _ (by omega)]
  omega

theorem yearOfEra_mono {day later : Int} (h : day ≤ later) : yearOfEra day ≤ yearOfEra later := by
  -- the two summands that take days off are slower than those that add them
  have quads : day - day / 1460 ≤ later - later / 1460 := by omega
  have centuries : day / 36524 - day / 146096 ≤ later / 36524 - later / 146096 := by omega
  unfold yearOfEra
  omega

/-- A day of an era lies in its year. -/
theorem firstDay_yearOfEra {day : Int} (inEra : 0 ≤ day ∧ day < 146097) :
    firstDay (yearOfEra day) ≤ day ∧ day ≤ firstDay (yearOfEra day) + 365 := by
  unfold firstDay yearOfEra
  have eras : day / 146096 = day / 36524 / 4 := by omega
  rw [eras]
  obtain ⟨first, last⟩ : 0 ≤ day / 36524 ∧ day / 36524 ≤ 4 := by omega
  generalize ofDay : day / 36524 = century at first last ⊢
  generalize year : (day - day / 1460 + century - century / 4) / 365 = y
  -- the leap years before the year are all counted, or one is still to come
  rcases Int.lt_or_le (day / 1460) (y / 4) with fewer | all
  · interval_cases century <;> omega
  · interval_cases century <;> omega

theorem marchDay_mem (days : Int) : 0 ≤ marchDay days ∧ marchDay days ≤ 365 := by
  have inYear := firstDay_yearOfEra (dayOfEra_mem days)
  unfold marchDay
  omega

theorem era_mono {days later : Int} (h : days ≤ later) : era days ≤ era later := by
  unfold era
  rw [Int.fdiv_eq_ediv_of_nonneg _ (by omega), Int.fdiv_eq_ediv_of_nonneg _ (by omega)]
  omega

theorem marchYear_lt {days later : Int} (h : days < later) :
    marchYear days < marchYear later ∨ marchYear days = marchYear later ∧ marchDay days < marchDay later := by
  have bounds := dayOfEra_mem days
  have bounds' := dayOfEra_mem later
  unfold marchYear marchDay
  rcases Int.lt_or_le (era days) (era later) with eras | eras
  · have first : yearOfEra 0 ≤ yearOfEra (dayOfEra later) := yearOfEra_mono bounds'.1
    have last : yearOfEra (dayOfEra days) ≤ yearOfEra 146096 := yearOfEra_mono (by omega)
    have length : yearOfEra 0 = 0 ∧ yearOfEra 146096 = 399 := by decide
    omega
  · have same : era days = era later := Int.le_antisymm (era_mono (by omega)) eras
    have ordered : dayOfEra days < dayOfEra later := by
      unfold dayOfEra
      omega
    have years := yearOfEra_mono (Int.le_of_lt ordered)
    rcases Int.lt_or_le (yearOfEra (dayOfEra days)) (yearOfEra (dayOfEra later)) with before | after
    · omega
    · rw [Int.le_antisymm years after]
      omega

/-- **DateBefore** — a date is before another one: by the year, then by the month, then by the day. -/
def DateBefore (date later : Int × Nat × Nat) : Prop :=
  date.1 < later.1 ∨ date.1 = later.1 ∧
    (date.2.1 < later.2.1 ∨ date.2.1 = later.2.1 ∧ date.2.2 < later.2.2)

theorem dateInYear_before {year day year' day' : Int} (inYear : 0 ≤ day ∧ day ≤ 365)
    (inYear' : 0 ≤ day' ∧ day' ≤ 365) (h : year < year' ∨ year = year' ∧ day < day') :
    DateBefore (dateInYear year day) (dateInYear year' day') := by
  unfold DateBefore dateInYear
  dsimp only
  split_ifs <;> omega

/-- An earlier day has an earlier date. -/
theorem dateOfDay_before {days later : Int} (h : days < later) : DateBefore (dateOfDay days) (dateOfDay later) := by
  rw [dateOfDay_eq, dateOfDay_eq]
  exact dateInYear_before (marchDay_mem days) (marchDay_mem later) (marchYear_lt h)

/-- Months and days of a date have two digits. -/
theorem dateOfDay_lt (days : Int) : (dateOfDay days).2.1 < 100 ∧ (dateOfDay days).2.2 < 100 := by
  have inYear := marchDay_mem days
  rw [dateOfDay_eq]
  unfold dateInYear
  dsimp only
  split_ifs <;> omega

end Calendar

/-! ## Digits in order -/

namespace Timestamp

/-- **digits** — a number in as many digits as are asked for. -/
def digits : Nat → Nat → List Char
  | 0, _ => []
  | width + 1, n => (n / 10 ^ width).digitChar :: digits width (n % 10 ^ width)

theorem digits_concat {width n : Nat} (small : n < 10 ^ (width + 1)) :
    digits (width + 1) n = digits width (n / 10) ++ [(n % 10).digitChar] := by
  induction width generalizing n with
  | zero =>
    rw [Nat.mod_eq_of_lt (by simpa using small)]
    simp [digits]
  | succ width ih =>
    have rest : n % 10 ^ (width + 1) < 10 ^ (width + 1) := Nat.mod_lt _ (by positivity)
    have first : n / 10 ^ (width + 1) = n / 10 / 10 ^ width := by rw [Nat.div_div_eq_div_mul, Nat.pow_succ']
    have middle : n % 10 ^ (width + 1) / 10 = n / 10 % 10 ^ width := by
      rw [Nat.pow_succ', Nat.mod_mul_right_div_self]
    have last : n % 10 ^ (width + 1) % 10 = n % 10 := Nat.mod_mod_of_dvd n (Dvd.intro_left _ rfl)
    rw [digits, ih rest, first, middle, last]
    rfl

theorem digits_zero (width : Nat) : digits width 0 = List.replicate width '0' := by
  induction width with
  | zero => rfl
  | succ width ih =>
    rw [digits, Nat.zero_div, Nat.zero_mod, ih]
    rfl

/-- A number that is padded to a width has the digits of the width. -/
theorem toList_padded {width n : Nat} (small : n < 10 ^ (width + 1)) :
    (padded (width + 1) n).toList = digits (width + 1) n := by
  unfold padded
  rw [String.toList_ofList]
  induction width generalizing n with
  | zero =>
    have digit : n < 10 := by simpa using small
    simp [Nat.toDigits_of_lt_base digit, digits]
  | succ width ih =>
    rw [digits_concat small]
    rcases Nat.lt_or_ge n 10 with digit | more
    · rw [Nat.toDigits_of_lt_base digit, Nat.div_eq_of_lt digit, digits_zero, Nat.mod_eq_of_lt digit]
      rfl
    · have fewer : n / 10 < 10 ^ (width + 1) := by
        rw [Nat.pow_succ] at small
        omega
      rw [← ih fewer, Nat.toDigits_of_base_le (by omega) more, List.length_append, List.length_singleton,
        Nat.add_sub_add_right, List.append_assoc]

theorem digitChar_lt {n m : Nat} (h : n < m) (digit : m < 10) : n.digitChar < m.digitChar := by
  rw [Char.lt_def, UInt32.lt_iff_toNat_lt]
  show n.digitChar.toNat < m.digitChar.toNat
  rw [Nat.toNat_digitChar_of_lt_ten (by omega), Nat.toNat_digitChar_of_lt_ten digit]
  omega

/-- Numbers of one width are in order as texts, and so is what follows equal numbers. -/
theorem digits_append_lt {width n m : Nat} {rest rest' : List Char} (small : m < 10 ^ width)
    (h : n < m ∨ n = m ∧ rest < rest') : digits width n ++ rest < digits width m ++ rest' := by
  induction width generalizing n m with
  | zero =>
    have : m = 0 := by simpa using small
    exact (h.resolve_left (by omega)).2
  | succ width ih =>
    have positive : 0 < 10 ^ width := by positivity
    rw [digits, digits, List.cons_append, List.cons_append, List.cons_lt_cons_iff]
    rcases h with less | ⟨rfl, follows⟩
    · -- the first digits differ, or the rests do
      rcases Nat.lt_or_eq_of_le (Nat.div_le_div_right (c := 10 ^ width) (Nat.le_of_lt less)) with first | same
      · exact .inl (digitChar_lt first (by rwa [Nat.div_lt_iff_lt_mul positive, ← Nat.pow_succ']))
      · refine .inr ⟨by rw [same], ih (Nat.mod_lt _ positive) (.inl ?_)⟩
        have whole := Nat.div_add_mod n (10 ^ width)
        have whole' := Nat.div_add_mod m (10 ^ width)
        rw [same] at whole
        omega
    · exact .inr ⟨rfl, ih (Nat.mod_lt _ positive) (.inr ⟨rfl, follows⟩)⟩

theorem plus_lt_digitChar {n : Nat} (digit : n < 10) : '+' < n.digitChar := by
  rw [Char.lt_def, UInt32.lt_iff_toNat_lt]
  show 43 < n.digitChar.toNat
  rw [Nat.toNat_digitChar_of_lt_ten digit]
  omega

/-- The smaller of two fractions has a smaller leading digit, or the same one and a smaller rest. -/
theorem leading_digit {n m p q : Nat} (positive : 0 < p) (positive' : 0 < q) (h : n * q < m * p) :
    n / p < m / q ∨ n / p = m / q ∧ n % p * q < m % q * p := by
  have whole : n * q = p * q * (n / p) + n % p * q :=
    calc n * q = (p * (n / p) + n % p) * q := by rw [Nat.div_add_mod]
      _ = p * q * (n / p) + n % p * q := by ring
  have whole' : m * p = p * q * (m / q) + m % q * p :=
    calc m * p = (q * (m / q) + m % q) * p := by rw [Nat.div_add_mod]
      _ = p * q * (m / q) + m % q * p := by ring
  rcases Nat.lt_trichotomy (n / p) (m / q) with less | same | more
  · exact .inl less
  · rw [same] at whole
    exact .inr ⟨same, by omega⟩
  · -- the greater digit alone makes the fraction greater
    have digit : p * q * (m / q + 1) ≤ p * q * (n / p) := Nat.mul_le_mul_left _ more
    have rest : m % q * p < q * p := Nat.mul_lt_mul_of_pos_right (Nat.mod_lt m positive') positive
    linarith [Nat.zero_le (n % p * q)]

/-- **Fractions are in order as texts** if a sign follows them: of two fractions `n / 10 ^ width` and
`m / 10 ^ width'` the smaller one comes first, however many digits they have. -/
theorem digits_plus_lt {width width' n m : Nat} {rest rest' : List Char} (small : n < 10 ^ width)
    (small' : m < 10 ^ width') (h : n * 10 ^ width' < m * 10 ^ width) :
    digits width n ++ '+' :: rest < digits width' m ++ '+' :: rest' := by
  induction width generalizing width' n m with
  | zero =>
    rcases width' with _ | width'
    · exact absurd h (by simp at small small'; simp [small, small'])
    · exact List.cons_lt_cons_iff.mpr (.inl (plus_lt_digitChar
        (by rwa [Nat.div_lt_iff_lt_mul (by positivity), ← Nat.pow_succ'])))
  | succ width ih =>
    rcases width' with _ | width'
    · exact absurd h (by simp at small'; simp [small'])
    have positive : 0 < 10 ^ width := by positivity
    have positive' : 0 < 10 ^ width' := by positivity
    have digit : m / 10 ^ width' < 10 := by rwa [Nat.div_lt_iff_lt_mul positive', ← Nat.pow_succ']
    rw [digits, digits, List.cons_append, List.cons_append, List.cons_lt_cons_iff]
    have fractions : n * 10 ^ width' < m * 10 ^ width := by
      rw [Nat.pow_succ, Nat.pow_succ] at h
      linarith
    rcases leading_digit positive positive' fractions with less | ⟨same, rest⟩
    · exact .inl (digitChar_lt less digit)
    · exact .inr ⟨by rw [same], ih (Nat.mod_lt n positive) (Nat.mod_lt m positive') rest⟩

/-! ## Times in order -/

instance : LT Timestamp :=
  ⟨fun t later => t.seconds < later.seconds ∨ t.seconds = later.seconds ∧ t.nanos < later.nanos⟩

instance : LE Timestamp := ⟨fun t later => t < later ∨ t = later⟩

/-- The date of a time. -/
def date (t : Timestamp) : Int × Nat × Nat := Calendar.dateOfDay (t.seconds.fdiv secondsPerDay)

/-- The second of its day. -/
def secondOfDay (t : Timestamp) : Nat := (t.seconds.fmod secondsPerDay).toNat

/-- The second of its minute, 60 in a leap second. -/
def secondOfMinute (t : Timestamp) : Nat := t.secondOfDay % 60 + if nanosPerSecond ≤ t.nanos then 1 else 0

/-- The nanoseconds of its second. -/
def nanosOfSecond (t : Timestamp) : Nat := if nanosPerSecond ≤ t.nanos then t.nanos - nanosPerSecond else t.nanos

/-- **Regular** — a time of the clock, with a leap second only at the end of a minute, in a year of four digits. -/
structure Regular (t : Timestamp) : Prop where
  nanos_lt : t.nanos < 2 * nanosPerSecond
  leap : nanosPerSecond ≤ t.nanos → t.seconds % 60 = 59
  year : 0 ≤ t.date.1 ∧ t.date.1 < 10000

/-- **OnClock** — a time of the clock, with a leap second only at the end of a minute, in whatever year. -/
structure OnClock (t : Timestamp) : Prop where
  nanos_lt : t.nanos < 2 * nanosPerSecond
  leap : nanosPerSecond ≤ t.nanos → t.seconds % 60 = 59

theorem Regular.onClock {t : Timestamp} (regular : t.Regular) : t.OnClock := ⟨regular.nanos_lt, regular.leap⟩

/-- What follows the seconds in a column: the fraction and the offset. -/
def tail (nanos : Nat) : List Char := (fractionText nanos).toList ++ "+00:00".toList

/-- A fraction has three, six or nine digits. -/
theorem tail_eq {nanos : Nat} (positive : 0 < nanos) (part : nanos < nanosPerSecond) :
    ∃ width n, 0 < width ∧ width ≤ 9 ∧ n < 10 ^ width ∧ n * 10 ^ 9 = nanos * 10 ^ width ∧
      tail nanos = '.' :: (digits width n ++ "+00:00".toList) := by
  unfold tail fractionText
  unfold nanosPerSecond at part
  rw [if_neg (by omega)]
  split_ifs with millis micros
  · refine ⟨3, nanos / 1000000, by omega, by omega, by omega, by omega, ?_⟩
    rw [String.toList_append, toList_padded (by omega)]
    rfl
  · refine ⟨6, nanos / 1000, by omega, by omega, by omega, by omega, ?_⟩
    rw [String.toList_append, toList_padded (by omega)]
    rfl
  · refine ⟨9, nanos, by omega, by omega, by omega, rfl, ?_⟩
    rw [String.toList_append, toList_padded (by omega)]
    rfl

theorem tail_lt {nanos nanos' : Nat} (h : nanos < nanos') (part : nanos' < nanosPerSecond) :
    tail nanos < tail nanos' := by
  obtain ⟨width', n', -, -, small', value', text'⟩ := tail_eq (by omega) part
  rw [text']
  rcases Nat.eq_zero_or_pos nanos with rfl | positive
  · -- the sign of the offset comes before the point
    exact List.cons_lt_cons_iff.mpr (.inl (by decide))
  · obtain ⟨width, n, -, -, small, value, text⟩ := tail_eq positive (Nat.lt_trans h part)
    rw [text]
    refine List.cons_lt_cons_iff.mpr (.inr ⟨rfl, digits_plus_lt small small' ?_⟩)
    have scaled : n * 10 ^ width' * 10 ^ 9 < n' * 10 ^ width * 10 ^ 9 :=
      calc n * 10 ^ width' * 10 ^ 9 = nanos * (10 ^ width * 10 ^ width') := by rw [Nat.mul_right_comm, value]; ring
        _ < nanos' * (10 ^ width * 10 ^ width') := Nat.mul_lt_mul_of_pos_right h (by positivity)
        _ = n' * 10 ^ width * 10 ^ 9 := by rw [Nat.mul_right_comm, value']; ring
    exact Nat.lt_of_mul_lt_mul_right scaled

theorem secondOfDay_lt (t : Timestamp) : t.secondOfDay < 86400 := by
  unfold secondOfDay secondsPerDay
  rw [Int.fmod_eq_emod_of_nonneg _ (by omega)]
  omega

theorem secondOfMinute_lt (t : Timestamp) : t.secondOfMinute < 100 := by
  unfold secondOfMinute
  split_ifs <;> omega

/-- The text of a time part by part. -/
theorem toList_columnText (t : Timestamp) :
    t.columnText.toList =
      (yearText t.date.1).toList ++ '-' :: (digits 2 t.date.2.1 ++ '-' :: (digits 2 t.date.2.2 ++ ' ' ::
        (digits 2 (t.secondOfDay / 3600) ++ ':' :: (digits 2 (t.secondOfDay / 60 % 60) ++ ':' ::
          (digits 2 t.secondOfMinute ++ tail t.nanosOfSecond))))) := by
  obtain ⟨month, day⟩ := Calendar.dateOfDay_lt (t.seconds.fdiv secondsPerDay)
  have bound := t.secondOfDay_lt
  have text : t.columnText = yearText t.date.1 ++ "-" ++ padded 2 t.date.2.1 ++ "-" ++ padded 2 t.date.2.2 ++ " " ++
      padded 2 (t.secondOfDay / 3600) ++ ":" ++ padded 2 (t.secondOfDay / 60 % 60) ++ ":" ++
      padded 2 t.secondOfMinute ++ fractionText t.nanosOfSecond ++ "+00:00" := rfl
  rw [text]
  simp only [String.toList_append]
  rw [toList_padded month, toList_padded day, toList_padded (by omega), toList_padded (by omega),
    toList_padded t.secondOfMinute_lt]
  simp only [List.append_assoc, tail]
  rfl

/-- A year of four digits has no sign. -/
theorem Regular.toList_yearText {t : Timestamp} (regular : t.Regular) :
    (yearText t.date.1).toList = digits 4 t.date.1.toNat := by
  obtain ⟨lower, upper⟩ := regular.year
  rw [yearText, if_pos ⟨lower, upper⟩, toList_padded (by omega)]

/-- An earlier time lies on an earlier day, or earlier in its day. -/
theorem day_before {t later : Timestamp} (h : t < later) :
    t.seconds.fdiv secondsPerDay < later.seconds.fdiv secondsPerDay ∨
      t.seconds.fdiv secondsPerDay = later.seconds.fdiv secondsPerDay ∧
        (t.secondOfDay < later.secondOfDay ∨ t.secondOfDay = later.secondOfDay ∧ t.nanos < later.nanos) := by
  have order : t.seconds < later.seconds ∨ t.seconds = later.seconds ∧ t.nanos < later.nanos := h
  unfold secondOfDay secondsPerDay
  rw [Int.fdiv_eq_ediv_of_nonneg _ (by omega), Int.fdiv_eq_ediv_of_nonneg _ (by omega),
    Int.fmod_eq_emod_of_nonneg _ (by omega), Int.fmod_eq_emod_of_nonneg _ (by omega)]
  omega

theorem OnClock.second_of_leap {t : Timestamp} (clock : t.OnClock) (leap : nanosPerSecond ≤ t.nanos) :
    t.secondOfDay % 60 = 59 := by
  have last := clock.leap leap
  unfold secondOfDay secondsPerDay
  rw [Int.fmod_eq_emod_of_nonneg _ (by omega)]
  omega

theorem OnClock.nanosOfSecond_lt {t : Timestamp} (clock : t.OnClock) : t.nanosOfSecond < nanosPerSecond := by
  have bound := clock.nanos_lt
  unfold nanosOfSecond
  split_ifs <;> omega

/-- The parts of a time are before those of a later one on the same day, the greatest first. -/
theorem Regular.clock_before {t later : Timestamp} (regular : t.Regular) (regular' : later.Regular)
    (h : t.secondOfDay < later.secondOfDay ∨ t.secondOfDay = later.secondOfDay ∧ t.nanos < later.nanos) :
    t.secondOfDay / 3600 < later.secondOfDay / 3600 ∨ t.secondOfDay / 3600 = later.secondOfDay / 3600 ∧
      (t.secondOfDay / 60 % 60 < later.secondOfDay / 60 % 60 ∨ t.secondOfDay / 60 % 60 = later.secondOfDay / 60 % 60 ∧
        (t.secondOfMinute < later.secondOfMinute ∨ t.secondOfMinute = later.secondOfMinute ∧
          t.nanosOfSecond < later.nanosOfSecond)) := by
  have leap := regular.onClock.second_of_leap
  have leap' := regular'.onClock.second_of_leap
  unfold secondOfMinute nanosOfSecond
  split_ifs <;> omega

/-- A part of one width that a separator follows. -/
theorem part_lt {width n m : Nat} {separator : Char} {rest rest' : List Char} (small : m < 10 ^ width)
    (h : n < m ∨ n = m ∧ rest < rest') :
    digits width n ++ separator :: rest < digits width m ++ separator :: rest' :=
  digits_append_lt small (h.imp_right (And.imp_right fun follows => List.cons_lt_cons_iff.mpr (.inr ⟨rfl, follows⟩)))

/-- **An earlier time has a text that comes first.** -/
theorem Regular.columnText_lt {t later : Timestamp} (regular : t.Regular) (regular' : later.Regular) (h : t < later) :
    t.columnText < later.columnText := by
  have parts : t.date.1.toNat < later.date.1.toNat ∨ t.date.1.toNat = later.date.1.toNat ∧
      (t.date.2.1 < later.date.2.1 ∨ t.date.2.1 = later.date.2.1 ∧
        (t.date.2.2 < later.date.2.2 ∨ t.date.2.2 = later.date.2.2 ∧
          (t.secondOfDay < later.secondOfDay ∨ t.secondOfDay = later.secondOfDay ∧ t.nanos < later.nanos))) := by
    have lower := regular.year.1
    rcases day_before h with days | ⟨same, clock⟩
    · have dates : Calendar.DateBefore t.date later.date := Calendar.dateOfDay_before days
      unfold Calendar.DateBefore at dates
      omega
    · have dates : t.date = later.date := congrArg Calendar.dateOfDay same
      rw [dates]
      exact .inr ⟨rfl, .inr ⟨rfl, .inr ⟨rfl, clock⟩⟩⟩
  obtain ⟨month, day⟩ := Calendar.dateOfDay_lt (later.seconds.fdiv secondsPerDay)
  have bound := later.secondOfDay_lt
  rw [String.lt_iff, toList_columnText, toList_columnText, regular.toList_yearText, regular'.toList_yearText]
  -- a part decides where it differs; where it does not, what follows decides
  refine part_lt (by have := regular'.year; omega) (parts.imp_right (And.imp_right fun parts => ?_))
  refine part_lt month (parts.imp_right (And.imp_right fun parts => ?_))
  refine part_lt day (parts.imp_right (And.imp_right fun parts => ?_))
  have clock := regular.clock_before regular' parts
  refine part_lt (by omega) (clock.imp_right (And.imp_right fun clock => ?_))
  refine part_lt (by omega) (clock.imp_right (And.imp_right fun clock => ?_))
  exact digits_append_lt later.secondOfMinute_lt (clock.imp_right (And.imp_right fun nanos =>
    tail_lt nanos regular'.onClock.nanosOfSecond_lt))

/-- Times in order have texts in order. -/
theorem Regular.columnText_le {t later : Timestamp} (regular : t.Regular) (regular' : later.Regular)
    (h : t ≤ later) : t.columnText ≤ later.columnText := by
  rcases h with before | rfl
  · exact String.not_lt.mp (String.lt_asymm (regular.columnText_lt regular' before))
  · exact String.le_refl _

end Timestamp

end FeedIndex
