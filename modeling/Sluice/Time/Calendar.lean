/-!
# Dates and points in time

A `Date` is a day of the Gregorian calendar, carried backwards before its introduction, in the
years from -262143 to 262142.  A `Timestamp` is a point in time as a date and a time of day in
UTC, with the second 60 for a leap second.  Both hold the proof that they name a day and a time
that exist, so equal points in time are equal values.

`Timestamp.ofUnix` turns a count of nanoseconds since the start of 1970 into a timestamp.
-/

namespace Sluice

/-! ## Dates -/

/-- A year of 366 days. -/
def isLeap (year : Int) : Bool := year % 4 == 0 && (year % 100 != 0 || year % 400 == 0)

/-- The number of days of a month. -/
def daysIn (year : Int) (month : Nat) : Nat :=
  if month = 2 then (if isLeap year then 29 else 28)
  else if month = 4 ∨ month = 6 ∨ month = 9 ∨ month = 11 then 30
  else 31

def firstYear : Int := -262143

def lastYear : Int := 262142

/-- A day that exists, in the years covered. -/
def IsDay (year : Int) (month day : Nat) : Prop :=
  firstYear ≤ year ∧ year ≤ lastYear ∧ 1 ≤ month ∧ month ≤ 12 ∧ 1 ≤ day ∧ day ≤ daysIn year month

instance (year : Int) (month day : Nat) : Decidable (IsDay year month day) :=
  inferInstanceAs (Decidable (_ ∧ _ ∧ _ ∧ _ ∧ _ ∧ _))

structure Date where
  year : Int
  month : Nat
  /-- The day of the month, from 1. -/
  day : Nat
  isDay : IsDay year month day
deriving DecidableEq

/-- The day of these numbers, if it exists. -/
def Date.of? (year : Int) (month day : Nat) : Option Date :=
  if h : IsDay year month day then some ⟨year, month, day, h⟩ else none

/-- The first of January 1970. -/
def Date.epoch : Date := ⟨1970, 1, 1, by decide⟩

/-- The day after. -/
def Date.next? (d : Date) : Option Date :=
  if d.day < daysIn d.year d.month then Date.of? d.year d.month (d.day + 1)
  else if d.month < 12 then Date.of? d.year (d.month + 1) 1
  else Date.of? (d.year + 1) 1 1

/-- The day before. -/
def Date.previous? (d : Date) : Option Date :=
  if 1 < d.day then Date.of? d.year d.month (d.day - 1)
  else if 1 < d.month then Date.of? d.year (d.month - 1) (daysIn d.year (d.month - 1))
  else Date.of? (d.year - 1) 12 31

/-- The day a number of days after the epoch.  Years are counted from March, in cycles of 400 years,
so that a leap day is the last of its year. -/
def Date.ofDays? (days : Int) : Option Date :=
  let shifted := days + 719468
  let cycle := Int.fdiv shifted 146097
  let ofCycle := (shifted - cycle * 146097).toNat
  let year := (ofCycle - ofCycle / 1460 + ofCycle / 36524 - ofCycle / 146096) / 365
  let ofYear := ofCycle - (365 * year + year / 4 - year / 100)
  let month := (5 * ofYear + 2) / 153
  let day := ofYear - (153 * month + 2) / 5 + 1
  let fromMarch := cycle * 400 + year
  if month < 10 then Date.of? fromMarch (month + 3) day
  else Date.of? (fromMarch + 1) (month - 9) day

/-! ## Points in time -/

/-- The nanoseconds of a second. -/
abbrev nanosPerSecond : Nat := 1000000000

/-- The nanoseconds of a day. -/
abbrev nanosPerDay : Nat := 86400000000000

/-- A time of day that exists. -/
def IsTime (hour minute second nanos : Nat) : Prop :=
  hour < 24 ∧ minute < 60 ∧ second ≤ 60 ∧ nanos < nanosPerSecond

instance (hour minute second nanos : Nat) : Decidable (IsTime hour minute second nanos) :=
  inferInstanceAs (Decidable (_ ∧ _ ∧ _ ∧ _))

/-- A point in time in UTC. -/
structure Timestamp where
  date : Date
  hour : Nat
  minute : Nat
  /-- The second; 60 in a leap second. -/
  second : Nat
  /-- The nanoseconds of the second. -/
  nanos : Nat
  /-- The time of day exists. -/
  isTime : IsTime hour minute second nanos
deriving DecidableEq

/-- The point in time of a day and a time of day, if the time exists. -/
def Timestamp.of? (date : Date) (hour minute second nanos : Nat) : Option Timestamp :=
  if h : IsTime hour minute second nanos then some ⟨date, hour, minute, second, nanos, h⟩ else none

/-- The start of 1970. -/
def Timestamp.epoch : Timestamp := ⟨.epoch, 0, 0, 0, 0, by decide⟩

/-- The point in time a number of nanoseconds after the start of 1970, if its year is covered. -/
def Timestamp.ofUnix? (nanos : Int) : Option Timestamp := do
  let date ← Date.ofDays? (Int.fdiv nanos nanosPerDay)
  let ofDay := (Int.fmod nanos nanosPerDay).toNat
  let seconds := ofDay / nanosPerSecond
  Timestamp.of? date (seconds / 3600) (seconds / 60 % 60) (seconds % 60) (ofDay % nanosPerSecond)

/-- The point in time a number of nanoseconds after the start of 1970. -/
def Timestamp.ofUnix (nanos : Int) : Timestamp := (Timestamp.ofUnix? nanos).getD .epoch

instance : Inhabited Timestamp := ⟨.epoch⟩

/-! ## Spans -/

/-- Whole milliseconds between two readings, in nanoseconds, of a clock that never goes back. -/
def millisecondsBetween (start finish : Nat) : UInt64 :=
  UInt64.ofNat ((finish - start) / 1000000)

end Sluice
