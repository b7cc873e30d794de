import RecordRows.Calendar.Date
/-! Times of day and timestamps without a zone. -/

namespace RecordRows

/-- A time of day. In a leap second the nanoseconds go past a second. -/
structure Time where
  hour : Nat
  minute : Nat
  second : Nat
  nano : Nat
  hour_lt : hour < 24
  minute_lt : minute < 60
  second_lt : second < 60
  nano_lt : nano < 2000000000
  deriving DecidableEq

structure Timestamp where
  date : Date
  time : Time
  deriving DecidableEq

namespace Time

/-- Of these times only the last second of a minute can be a leap second. -/
def of? (hour minute second nano : Nat) : Option Time :=
  if h : (hour < 24 ∧ minute < 60 ∧ second < 60) ∧ nano < 2000000000 ∧
      (nano < 1000000000 ∨ second = 59) then
    some ⟨hour, minute, second, nano, h.1.1, h.1.2.1, h.1.2.2, h.2.1⟩
  else none

def midnight : Time := ⟨0, 0, 0, 0, by decide, by decide, by decide, by decide⟩

def secondOfDay (t : Time) : Nat := t.hour * 3600 + t.minute * 60 + t.second

def isLeap (t : Time) : Bool := 1000000000 ≤ t.nano

end Time

namespace Timestamp

def ofDate (d : Date) : Timestamp := ⟨d, .midnight⟩

/-- The seconds since the start of 1970, a leap second counting as second 59. -/
def epochSecond (ts : Timestamp) : Int := ts.date.dayNumber * 86400 + ts.time.secondOfDay

def ofEpochNano? (n : Int) : Option Timestamp := do
  let date ← Date.ofDayNumber? (n / 86400000000000)
  let rest := (n % 86400000000000).toNat
  let second := rest / 1000000000
  let time ← Time.of? (second / 3600) (second / 60 % 60) (second % 60) (rest % 1000000000)
  return ⟨date, time⟩

def ofEpochSecond? (n : Int) : Option Timestamp := ofEpochNano? (n * 1000000000)

def ofEpochMilli? (n : Int) : Option Timestamp := ofEpochNano? (n * 1000000)

end Timestamp

end RecordRows
