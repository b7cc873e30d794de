import RecordRows.Calendar.Timestamp
/-! The parts of a date and time that a text gives, and the date and time that they determine. -/

namespace RecordRows.Calendar

inductive Field where
  | year | century | yearOfCentury | isoYear | isoYearOfCentury
  | quarter | month | day | ordinal | sundayWeek | mondayWeek | isoWeek
  | weekday
  | halfDay
  | hourOfHalf | minute | second | nanosecond | epochSecond
  | offset
  deriving DecidableEq, Repr

def Field.range : Field → Int × Int
  | year | isoYear | offset => (-2147483648, 2147483647)
  | century | yearOfCentury | isoYearOfCentury => (0, 99)
  | quarter => (1, 4)
  | month => (1, 12)
  | day => (1, 31)
  | ordinal => (1, 366)
  | sundayWeek | mondayWeek => (0, 53)
  | isoWeek => (1, 53)
  | weekday => (0, 6)
  | halfDay => (0, 1)
  | hourOfHalf => (0, 11)
  | minute => (0, 59)
  | second => (0, 60)
  | nanosecond => (0, 999999999)
  | epochSecond => (-9223372036854775808, 9223372036854775807)

structure Fields where
  entries : List (Field × Int)

namespace Fields

def empty : Fields := ⟨[]⟩

def get? (fs : Fields) (f : Field) : Option Int := fs.entries.lookup f

/-- Adds a value in the range of its field, if it does not contradict an earlier one. -/
def put? (fs : Fields) (f : Field) (value : Int) : Option Fields :=
  if f.range.1 ≤ value ∧ value ≤ f.range.2 then
    match fs.get? f with
    | none => some ⟨(f, value) :: fs.entries⟩
    | some earlier => if earlier = value then some fs else none
  else none

def putHour? (fs : Fields) (hour : Int) : Option Fields :=
  if 0 ≤ hour then (fs.put? .halfDay (hour / 12)).bind (·.put? .hourOfHalf (hour % 12)) else none

end Fields

inductive Fault where
  | outOfRange
  | impossible
  | notEnough
  deriving DecidableEq, Repr

/-- A year from itself, its century and its place in the century. Two digits alone stand for a year
from 1970 to 2069. -/
def resolveYear : Option Int → Option Int → Option Int → Except Fault (Option Int)
  | year, none, none => .ok year
  | some year, century, rest =>
    if 0 ≤ year ∧ century.getD (year / 100) = year / 100 ∧ rest.getD (year % 100) = year % 100 then
      .ok (some year)
    else .error .impossible
  | none, some century, some rest => .ok (some (century * 100 + rest))
  | none, none, some rest => .ok (some (rest + if rest < 70 then 2000 else 1900))
  | none, some _, none => .error .notEnough

def dateField (d : Date) : Field → Option Int
  | .year => some d.year
  | .century => if 0 ≤ d.year then some (d.year / 100) else none
  | .yearOfCentury => if 0 ≤ d.year then some (d.year % 100) else none
  | .isoYear => some d.isoYear
  | .isoYearOfCentury => if 0 ≤ d.isoYear then some (d.isoYear % 100) else none
  | .quarter => some ((d.month + 2) / 3 : Nat)
  | .month => some d.month
  | .day => some d.day
  | .ordinal => some d.ordinal
  | .sundayWeek => some d.sundayWeek
  | .mondayWeek => some d.mondayWeek
  | .isoWeek => some d.isoWeek
  | .weekday => some d.weekday
  | _ => none

def dateFields : List Field :=
  [.year, .century, .yearOfCentury, .isoYear, .isoYearOfCentury, .quarter, .month, .day, .ordinal,
   .sundayWeek, .mondayWeek, .isoWeek, .weekday]

def orFault {α : Type} (fault : Fault) : Option α → Except Fault α
  | some a => .ok a
  | none => .error fault

def dateOfWeek (year week weekday start : Int) : Except Fault Date := do
  let first ← orFault .outOfRange (Date.of? year 1 1)
  let ordinal := 1 + (start - first.weekday) % 7 + (week - 1) * 7 + (weekday - start) % 7
  orFault .impossible (Date.ofOrdinal? year ordinal.toNat)

namespace Fields

/-- The date that the first sufficient group of fields gives. -/
def candidate (fs : Fields) (year isoYear : Option Int) : Except Fault Date :=
  match year, fs.get? .month, fs.get? .day with
  | some year, some month, some day => orFault .outOfRange (Date.of? year month.toNat day.toNat)
  | _, _, _ =>
    match year, fs.get? .ordinal with
    | some year, some ordinal => orFault .outOfRange (Date.ofOrdinal? year ordinal.toNat)
    | _, _ =>
      match year, fs.get? .sundayWeek, fs.get? .weekday with
      | some year, some week, some weekday => dateOfWeek year week weekday 6
      | _, _, _ =>
        match year, fs.get? .mondayWeek, fs.get? .weekday with
        | some year, some week, some weekday => dateOfWeek year week weekday 0
        | _, _, _ =>
          match isoYear, fs.get? .isoWeek, fs.get? .weekday with
          | some year, some week, some weekday =>
            orFault .outOfRange (Date.ofIsoWeek? year week weekday)
          | _, _, _ => .error .notEnough

def agree (fs : Fields) (d : Date) : Bool :=
  dateFields.all fun f => (fs.get? f).isNone || fs.get? f == dateField d f

def date (fs : Fields) : Except Fault Date := do
  let year ← resolveYear (fs.get? .year) (fs.get? .century) (fs.get? .yearOfCentury)
  let isoYear ← resolveYear (fs.get? .isoYear) none (fs.get? .isoYearOfCentury)
  let date ← fs.candidate year isoYear
  if fs.agree date then .ok date else .error .impossible

/-- An hour and a minute suffice. Second 60 is a leap second, and parts of a second need one. -/
def time (fs : Fields) : Except Fault Time :=
  match fs.get? .halfDay, fs.get? .hourOfHalf, fs.get? .minute with
  | some half, some hour, some minute =>
    let second := (fs.get? .second).getD 0
    let nano := (fs.get? .nanosecond).getD 0
    if (fs.get? .nanosecond).isSome && (fs.get? .second).isNone then .error .notEnough
    else
      let (second, nano) := if second = 60 then (59, nano + 1000000000) else (second, nano)
      orFault .outOfRange
        (Time.of? (half * 12 + hour).toNat minute.toNat second.toNat nano.toNat)
  | _, _, _ => .error .notEnough

def epochAgrees (fs : Fields) (ts : Timestamp) : Bool :=
  match fs.get? .epochSecond with
  | none => true
  | some second => second = ts.epochSecond || (ts.time.isLeap && second = ts.epochSecond + 1)

/-- Fills in what an epoch second says. If second 60 is given, the epoch second is that of second
59 or of the one after it. -/
def fill? (fs : Fields) (epochSecond : Int) : Option Fields := do
  let ts ← Timestamp.ofEpochSecond? epochSecond
  let leap := fs.get? .second = some 60
  if leap ∧ ts.time.second ≠ 59 ∧ ts.time.second ≠ 0 then none
  let ts ← (if leap ∧ ts.time.second = 0 then Timestamp.ofEpochSecond? (epochSecond - 1)
    else some ts)
  let fs ← (if leap then some fs else fs.put? .second ts.time.second)
  let fs ← fs.put? .year ts.date.year
  let fs ← fs.put? .ordinal ts.date.ordinal
  let fs ← fs.putHour? ts.time.hour
  fs.put? .minute ts.time.minute

/-- A timestamp from its date and time, or where one of these has not enough fields from an epoch
second. -/
def timestamp? (fs : Fields) : Option Timestamp :=
  match fs.date, fs.time with
  | .ok date, .ok time => some ⟨date, time⟩ |>.filter fs.epochAgrees
  | .error .notEnough, .ok _ | .ok _, .error .notEnough | .error .notEnough, .error .notEnough => do
    let fs ← fs.fill? (← fs.get? .epochSecond)
    let date ← fs.date.toOption
    let time ← fs.time.toOption
    return ⟨date, time⟩
  | _, _ => none

end Fields

end RecordRows.Calendar
