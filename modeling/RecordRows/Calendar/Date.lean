import RecordRows.Text.Digits
/-! Dates of the proleptic Gregorian calendar. Year 0 exists. -/

namespace RecordRows

namespace Calendar

def isLeap (year : Int) : Bool := year % 4 = 0 && (year % 100 != 0 || year % 400 = 0)

def monthLength (year : Int) (month : Nat) : Nat :=
  if month = 2 then (if isLeap year then 29 else 28)
  else if month = 4 ∨ month = 6 ∨ month = 9 ∨ month = 11 then 30
  else if 1 ≤ month ∧ month ≤ 12 then 31
  else 0

def daysBeforeMonth (year : Int) : Nat → Nat
  | 0 => 0
  | month + 1 => daysBeforeMonth year month + monthLength year month

def daysBeforeYear (year : Int) : Int :=
  365 * year + (year + 3) / 4 - (year + 99) / 100 + (year + 399) / 400

def epoch : Int := 719528

/-- The year of a day counted from the start of 1970. Dividing by the mean length of a year gives
it or one of its neighbours. -/
def yearOfDay (day : Int) : Int :=
  let guess := (day + epoch) * 400 / 146097
  if day + epoch < daysBeforeYear guess then guess - 1
  else if daysBeforeYear (guess + 1) ≤ day + epoch then guess + 1
  else guess

def weekdayOfDay (day : Int) : Int := (day + 3) % 7

def isoYearOfDay (day : Int) : Int := yearOfDay (day - weekdayOfDay day + 3)

end Calendar

open Calendar

/-- A day of the years from -262143 to 262142. -/
structure Date where
  year : Int
  month : Nat
  day : Nat
  year_ge : -262143 ≤ year
  year_le : year ≤ 262142
  day_pos : 1 ≤ day
  day_le : day ≤ monthLength year month
  deriving DecidableEq

namespace Date

def of? (year : Int) (month day : Nat) : Option Date :=
  if h : (-262143 ≤ year ∧ year ≤ 262142) ∧ 1 ≤ day ∧ day ≤ monthLength year month then
    some ⟨year, month, day, h.1.1, h.1.2, h.2.1, h.2.2⟩
  else none

def ordinal (d : Date) : Nat := daysBeforeMonth d.year d.month + d.day

def dayNumber (d : Date) : Int := daysBeforeYear d.year + d.ordinal - 1 - epoch

def ofOrdinal? (year : Int) (ordinal : Nat) : Option Date :=
  (List.range 13).findSome? fun month => of? year month (ordinal - daysBeforeMonth year month)

def ofDayNumber? (n : Int) : Option Date :=
  ofOrdinal? (yearOfDay n) (n + epoch - daysBeforeYear (yearOfDay n) + 1).toNat

def weekday (d : Date) : Int := weekdayOfDay d.dayNumber

def isoYear (d : Date) : Int := isoYearOfDay d.dayNumber

def isoWeek (d : Date) : Int :=
  (d.dayNumber - d.weekday + 3 + epoch - daysBeforeYear d.isoYear) / 7 + 1

def sundayWeek (d : Date) : Int := (d.ordinal - (d.weekday + 1) % 7 + 6) / 7

def mondayWeek (d : Date) : Int := (d.ordinal - d.weekday + 6) / 7

/-- Week 1 of an ISO year is the one with 4 January. -/
def ofIsoWeek? (isoYear week weekday : Int) : Option Date :=
  let fourth := daysBeforeYear isoYear + 3 - epoch
  let day := fourth - weekdayOfDay fourth + 7 * (week - 1) + weekday
  if 1 ≤ week ∧ isoYearOfDay day = isoYear then ofDayNumber? day else none

end Date

end RecordRows
