/-
Instants as the program sees them: milliseconds since the epoch, and the text
that `Date.prototype.toISOString` gives them.
-/
import Mathlib.Tactic.Common

namespace IdProvider

/-- The time value of a `Date`. -/
abbrev Instant := Int

/-- The greatest time value of a `Date`, and the opposite of the least. -/
def maxTimeValue : Int := 8640000000000000

/-- `new Date(time)`; no instant for an Invalid Date. -/
def newDate (time : Int) : Option Instant :=
  if time.natAbs ≤ maxTimeValue then some time else none

/-- A `timestamp with time zone` column, which keeps microseconds. -/
structure Timestamp where
  micros : Int
  deriving DecidableEq

def Timestamp.ofInstant (instant : Instant) : Timestamp := ⟨instant * 1000⟩

/-- The `Date` the driver reads the column into. -/
def Timestamp.toInstant (timestamp : Timestamp) : Instant :=
  timestamp.micros / 1000

@[simp]
theorem Timestamp.toInstant_ofInstant (instant : Instant) :
    (Timestamp.ofInstant instant).toInstant = instant :=
  Int.mul_ediv_cancel instant (by decide)

/-- A `Date` that has been written is read back. -/
@[simp]
theorem Timestamp.map_toInstant_ofInstant (date : Option Instant) :
    (date.map Timestamp.ofInstant).map Timestamp.toInstant = date := by
  cases date with
  | none => rfl
  | some instant => exact congrArg some (toInstant_ofInstant instant)

/-- The column compared with a `Date` parameter. -/
def Timestamp.before (timestamp : Timestamp) (instant : Instant) : Bool :=
  decide (timestamp.micros < (Timestamp.ofInstant instant).micros)

theorem Timestamp.before_mono {timestamp : Timestamp}
    {earlier later : Instant} (hle : earlier ≤ later)
    (hbefore : timestamp.before earlier = true) :
    timestamp.before later = true := by
  have hscaled : earlier * 1000 ≤ later * 1000 :=
    Int.mul_le_mul_of_nonneg_right hle (by decide)
  exact decide_eq_true
    (Int.lt_of_lt_of_le (of_decide_eq_true hbefore) hscaled)

/-- A `Date` parameter compared with the column. -/
def Timestamp.after (timestamp : Timestamp) (instant : Instant) : Bool :=
  decide ((Timestamp.ofInstant instant).micros < timestamp.micros)

theorem Timestamp.after_iff {timestamp : Timestamp} {instant : Instant} :
    timestamp.after instant = true ↔ instant * 1000 < timestamp.micros :=
  decide_eq_true_iff

/-- What has passed stays passed. -/
theorem Timestamp.after_eq_false_of_le {timestamp : Timestamp}
    {earlier later : Instant} (hle : earlier ≤ later)
    (hpassed : timestamp.after earlier = false) :
    timestamp.after later = false := by
  rw [Bool.eq_false_iff, ne_eq, Timestamp.after_iff] at hpassed ⊢
  have hscaled : earlier * 1000 ≤ later * 1000 :=
    Int.mul_le_mul_of_nonneg_right hle (by decide)
  exact fun hlater => hpassed (Int.lt_of_le_of_lt hscaled hlater)

@[simp]
theorem Timestamp.after_ofInstant (later earlier : Instant) :
    (Timestamp.ofInstant later).after earlier = decide (earlier < later) := by
  rw [Bool.eq_iff_iff, Timestamp.after_iff, Timestamp.ofInstant,
    decide_eq_true_iff]
  exact Int.mul_lt_mul_right (by decide)

@[simp]
theorem Timestamp.before_ofInstant (earlier later : Instant) :
    (Timestamp.ofInstant earlier).before later =
      decide (earlier < later) := by
  rw [Timestamp.before, decide_eq_decide]
  exact Int.mul_lt_mul_right (by decide)

/-- A column that is later as a `Date` is later. -/
theorem Timestamp.after_of_toInstant {timestamp : Timestamp} {now : Instant}
    (hlater : now < timestamp.toInstant) : timestamp.after now = true := by
  rw [Timestamp.after_iff]
  rw [Timestamp.toInstant] at hlater
  have hscaled : (now + 1) * 1000 ≤ timestamp.micros :=
    (Int.le_ediv_iff_mul_le (by decide)).mp hlater
  exact Int.lt_of_lt_of_le
    (Int.mul_lt_mul_of_pos_right (Int.lt_succ now) (by decide)) hscaled

/-- A later column is no earlier `Date`: only the microseconds are lost. -/
theorem Timestamp.le_toInstant_of_after {timestamp : Timestamp}
    {now : Instant} (hafter : timestamp.after now = true) :
    now ≤ timestamp.toInstant := by
  rw [Timestamp.after_iff] at hafter
  exact (Int.le_ediv_iff_mul_le (by decide)).mpr (Int.le_of_lt hafter)

/-- The column lies inside the millisecond that begins at the instant. -/
def Timestamp.Inside (timestamp : Timestamp) (instant : Instant) : Prop :=
  instant * 1000 < timestamp.micros ∧
    timestamp.micros < (instant + 1) * 1000

/-- It is later than the instant, and its `Date` is not. -/
theorem Timestamp.inside_iff {timestamp : Timestamp} {now : Instant} :
    timestamp.Inside now ↔
      timestamp.after now = true ∧ ¬ now < timestamp.toInstant := by
  rw [Timestamp.after_iff, Timestamp.Inside, Timestamp.toInstant, Int.not_lt]
  apply and_congr_right'
  rw [← Int.lt_add_one_iff, Int.ediv_lt_iff_lt_mul (by decide)]

def dayMillis : Int := 24 * 60 * 60 * 1000

def padZeros (width value : Nat) : List Char :=
  let digits := Nat.toDigits 10 value
  List.replicate (width - digits.length) '0' ++ digits

/-- Year, month and day of a day number, in the proleptic Gregorian calendar.
The year is counted from March, so that the leap day comes last. -/
def civilOfDay (day : Int) : Int × Nat × Nat :=
  let shifted := day + 719468
  let era := shifted / 146097
  let doe := (shifted % 146097).toNat
  let yoe := (doe - doe / 1460 + doe / 36524 - doe / 146096) / 365
  let doy := doe - (365 * yoe + yoe / 4 - yoe / 100)
  let mp := (5 * doy + 2) / 153
  let dayOfMonth := doy - (153 * mp + 2) / 5 + 1
  let month := if mp < 10 then mp + 3 else mp - 9
  let year := (yoe : Int) + era * 400 + (if month ≤ 2 then 1 else 0)
  (year, month, dayOfMonth)

def yearText (year : Int) : List Char :=
  if 0 ≤ year ∧ year ≤ 9999 then padZeros 4 year.toNat
  else (if year < 0 then '-' else '+') :: padZeros 6 year.natAbs

/-- `Date.prototype.toISOString`. -/
def toISOString (instant : Instant) : String :=
  let (year, month, day) := civilOfDay (instant / dayMillis)
  let millis := (instant % dayMillis).toNat
  String.ofList
    (yearText year ++ '-' :: padZeros 2 month ++ '-' :: padZeros 2 day ++
      'T' :: padZeros 2 (millis / 3600000) ++
      ':' :: padZeros 2 (millis / 60000 % 60) ++
      ':' :: padZeros 2 (millis / 1000 % 60) ++
      '.' :: padZeros 3 (millis % 1000) ++ ['Z'])

example : toISOString 951782400123 = "2000-02-29T00:00:00.123Z" := by decide

/-- The first instant of the year 1 and the last one of the year 9999.  Between
them a `Date` has a text of four-digit years, which PostgreSQL reads; it
refuses the signed years outside, and the year 0. -/
def firstReadable : Instant := -62135596800000

def lastReadable : Instant := 253402300799999

example : toISOString firstReadable = "0001-01-01T00:00:00.000Z" := by decide

example : toISOString lastReadable = "9999-12-31T23:59:59.999Z" := by decide

/-- A `Date` as the parameter of a statement: `toISOString` throws on an
Invalid Date, and the database refuses a text that it cannot read. -/
def dateParameter (date : Option Instant) : Option Instant :=
  date.filter fun instant =>
    decide (firstReadable ≤ instant ∧ instant ≤ lastReadable)

theorem dateParameter_eq_some {date : Option Instant} {instant : Instant} :
    dateParameter date = some instant ↔
      date = some instant ∧ firstReadable ≤ instant ∧
        instant ≤ lastReadable := by
  rw [dateParameter, Option.filter_eq_some_iff, decide_eq_true_iff]

/-- What a statement stores of `new Date(time)`, unless it is refused. -/
def storedDate (time : Int) : Option Instant := dateParameter (newDate time)

end IdProvider
