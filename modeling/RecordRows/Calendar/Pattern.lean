import RecordRows.Text.Blank
/-! Patterns of dates and times: a format with `%` directives as a list of items. -/

namespace RecordRows.Calendar

inductive Number where
  | year | century | yearOfCentury | isoYear | isoYearOfCentury
  | quarter | month | day | ordinal
  | sundayWeek | mondayWeek | isoWeek | weekdayFromSunday | weekdayFromMonday
  | hour | hour12 | minute | second | nanosecond | epochSecond
  deriving DecidableEq, Repr

inductive Item where
  | literal (c : Char)
  | space
  | number (n : Number)
  /-- The name of a month or its first three letters; if `long`, the full name is taken as
  a whole. -/
  | monthName (long : Bool)
  | weekdayName (long : Bool)
  | halfDay
  | fraction
  /-- A fixed count of decimals of a second, after a point that may be missing with them. -/
  | fractionAfterPoint (digits : Nat)
  | fractionDigits (digits : Nat)
  | zoneName
  /-- The offset of a zone. With `lenient`, `Z` and an offset without minutes are offsets too. -/
  | offset (lenient : Bool)
  | timeMark
  | zone
  deriving DecidableEq, Repr

def numberLetters : List (Char × Number) :=
  [('Y', .year), ('C', .century), ('y', .yearOfCentury), ('G', .isoYear), ('g', .isoYearOfCentury),
   ('q', .quarter), ('m', .month), ('d', .day), ('e', .day), ('j', .ordinal),
   ('U', .sundayWeek), ('W', .mondayWeek), ('V', .isoWeek), ('w', .weekdayFromSunday),
   ('u', .weekdayFromMonday), ('H', .hour), ('k', .hour), ('I', .hour12), ('l', .hour12),
   ('M', .minute), ('S', .second), ('f', .nanosecond), ('s', .epochSecond)]

def hourMinute : List Item := [.number .hour, .literal ':', .number .minute]

def hourMinuteSecond : List Item := hourMinute ++ [.literal ':', .number .second]

def yearMonthDay : List Item :=
  [.number .year, .literal '-', .number .month, .literal '-', .number .day]

def monthDayYear : List Item :=
  [.number .month, .literal '/', .number .day, .literal '/', .number .yearOfCentury]

def dateTimeZone : List Item :=
  [.number .year, .space, .literal '-', .number .month, .space, .literal '-', .number .day,
   .timeMark, .number .hour, .space, .literal ':', .number .minute, .space, .literal ':',
   .number .second, .fraction, .space, .zone]

def otherDirectives : List (List Char × List Item) :=
  [(['a'], [.weekdayName false]), (['A'], [.weekdayName true]),
   (['b'], [.monthName false]), (['h'], [.monthName false]), (['B'], [.monthName true]),
   (['p'], [.halfDay]), (['P'], [.halfDay]),
   (['D'], monthDayYear), (['x'], monthDayYear), (['F'], yearMonthDay),
   (['v'], [.number .day, .literal '-', .monthName false, .literal '-', .number .year]),
   (['R'], hourMinute), (['T'], hourMinuteSecond), (['X'], hourMinuteSecond),
   (['r'], [.number .hour12, .literal ':', .number .minute, .literal ':', .number .second,
     .space, .halfDay]),
   (['c'], [.weekdayName false, .space, .monthName false, .space, .number .day, .space] ++
     hourMinuteSecond ++ [.space, .number .year]),
   (['+'], dateTimeZone),
   (['.', 'f'], [.fraction]),
   (['.', '3', 'f'], [.fractionAfterPoint 3]), (['.', '6', 'f'], [.fractionAfterPoint 6]),
   (['.', '9', 'f'], [.fractionAfterPoint 9]),
   (['3', 'f'], [.fractionDigits 3]), (['6', 'f'], [.fractionDigits 6]),
   (['9', 'f'], [.fractionDigits 9]),
   (['Z'], [.zoneName]), (['z'], [.offset false]), ([':', 'z'], [.offset false]),
   ([':', ':', 'z'], [.offset false]), ([':', ':', ':', 'z'], [.offset false]),
   (['#', 'z'], [.offset true]),
   (['n'], [.space]), (['t'], [.space]), (['%'], [.literal '%'])]

/-- All directives. That of a number may have a mark for its padding, which reading ignores. -/
def directives : List (List Char × List Item) :=
  (numberLetters.map fun (c, n) => ([c], [.number n])) ++
    (['-', '0', '_'].flatMap fun pad => numberLetters.map fun (c, n) => ([pad, c], [.number n])) ++
    otherDirectives

def items? : List Char → Option (List Item)
  | [] => some []
  | c :: cs =>
    if c = '%' then do
      let (spelling, items) ← directives.find? fun (spelling, _) => spelling.isPrefixOf cs
      return items ++ (← items? (cs.drop spelling.length))
    else (items? cs).map ((if Text.isBlank c then .space else .literal c) :: ·)
termination_by cs => cs.length
decreasing_by all_goals simp; try omega

end RecordRows.Calendar
