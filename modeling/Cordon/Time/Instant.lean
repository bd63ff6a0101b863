/-! # Points in time

An `Instant` is a point in time on the proleptic Gregorian calendar in coordinated universal time:
the day, counted from 1970-01-01, the second of that day, and the nanosecond of that second. A leap
second is the second before it with a nanosecond count of a billion or more.
-/

namespace Cordon.Time

/-- A calendar date. -/
structure Date where
  year : Int
  month : Nat
  day : Nat
deriving DecidableEq

/-- Every fourth year has a leap day, but of the full centuries only every fourth. -/
def isLeapYear (year : Int) : Bool := year % 4 == 0 && (year % 100 != 0 || year % 400 == 0)

def daysInMonth (year : Int) (month : Nat) : Nat :=
  match month with
  | 2 => if isLeapYear year then 29 else 28
  | 4 | 6 | 9 | 11 => 30
  | _ => 31

/-- The years that dates are kept for. -/
def firstYear : Int := -262143

@[inherit_doc firstYear]
def lastYear : Int := 262142

def Date.isValid (d : Date) : Bool :=
  firstYear ≤ d.year && d.year ≤ lastYear && 1 ≤ d.month && d.month ≤ 12 &&
    1 ≤ d.day && d.day ≤ daysInMonth d.year d.month

/-- The day count of a date, from 1970-01-01. Years are taken to begin in March, so that the leap
day is the last of its year, and are counted in eras of 400 years. -/
def Date.toDays (d : Date) : Int :=
  let y := if d.month ≤ 2 then d.year - 1 else d.year
  let era := y.fdiv 400
  let yearOfEra := y - era * 400
  let month : Int := if d.month ≤ 2 then d.month + 9 else (d.month : Int) - 3
  let dayOfYear := (153 * month + 2) / 5 + d.day - 1
  let dayOfEra := yearOfEra * 365 + yearOfEra / 4 - yearOfEra / 100 + dayOfYear
  era * 146097 + dayOfEra - 719468

def Date.ofDays (days : Int) : Date :=
  let z := days + 719468
  let era := z.fdiv 146097
  let dayOfEra := z - era * 146097
  let yearOfEra := (dayOfEra - dayOfEra / 1460 + dayOfEra / 36524 - dayOfEra / 146096) / 365
  let dayOfYear := dayOfEra - (365 * yearOfEra + yearOfEra / 4 - yearOfEra / 100)
  let month := (5 * dayOfYear + 2) / 153
  let day := dayOfYear - (153 * month + 2) / 5 + 1
  let month := if month < 10 then month + 3 else month - 9
  let year := yearOfEra + era * 400
  ⟨if month ≤ 2 then year + 1 else year, month.toNat, day.toNat⟩

/-- A point in time. -/
structure Instant where
  days : Int
  second : Nat
  nanos : Nat
deriving DecidableEq

def epoch : Instant := ⟨0, 0, 0⟩

/-- The point in time of a date, a second of the day and an offset of the local clock in seconds. -/
def Instant.ofLocal (date : Date) (second nanos : Nat) (offset : Int) : Instant :=
  let total := date.toDays * 86400 + second - offset
  ⟨total.fdiv 86400, (total.fmod 86400).toNat, nanos⟩

def Instant.date (t : Instant) : Date := Date.ofDays t.days

end Cordon.Time
