import RecordRows.Calendar.Fields
import RecordRows.Calendar.Pattern
import RecordRows.Text.LowerCase
import RecordRows.Text.Reader
/-! Dates and timestamps read from a text by a format. -/

namespace RecordRows.Calendar

open RecordRows.Text

def takeFixed (count : Nat) : Reader Nat := fun cs =>
  (readNat? (cs.take count)).bind fun n =>
    if count ≤ cs.length then some (n, cs.drop count) else none

def takeNumber (width : Option Nat) : Reader Int := fun cs =>
  let run := cs.takeWhile Char.isDigit
  let digits := match width with
    | some width => run.take width
    | none => run
  (readNat? digits).bind fun n =>
    if n ≤ 9223372036854775807 then some (n, cs.drop digits.length) else none

/-- A number with an optional sign. A sign takes the bound off its width. -/
def takeSigned (width : Nat) : Reader Int
  | '-' :: cs => (takeNumber none cs).map fun (n, cs) => (-n, cs)
  | '+' :: cs => takeNumber none cs
  | cs => takeNumber (some width) cs

def Number.width : Number → Option Nat
  | .year | .isoYear => some 4
  | .ordinal => some 3
  | .nanosecond => some 9
  | .quarter | .weekdayFromSunday | .weekdayFromMonday => some 1
  | .epochSecond => none
  | _ => some 2

def Number.take (n : Number) : Reader Int :=
  match n with
  | .year | .isoYear => takeSigned 4
  | n => takeNumber n.width

def Number.put? (fs : Fields) (value : Int) : Number → Option Fields
  | .year => fs.put? .year value
  | .century => fs.put? .century value
  | .yearOfCentury => fs.put? .yearOfCentury value
  | .isoYear => fs.put? .isoYear value
  | .isoYearOfCentury => fs.put? .isoYearOfCentury value
  | .quarter => fs.put? .quarter value
  | .month => fs.put? .month value
  | .day => fs.put? .day value
  | .ordinal => fs.put? .ordinal value
  | .sundayWeek => fs.put? .sundayWeek value
  | .mondayWeek => fs.put? .mondayWeek value
  | .isoWeek => fs.put? .isoWeek value
  | .weekdayFromSunday => if value ≤ 6 then fs.put? .weekday ((value + 6) % 7) else none
  | .weekdayFromMonday => fs.put? .weekday (value - 1)
  | .hour => fs.putHour? value
  | .hour12 => if 1 ≤ value ∧ value ≤ 12 then fs.put? .hourOfHalf (value % 12) else none
  | .minute => fs.put? .minute value
  | .second => fs.put? .second value
  | .nanosecond => fs.put? .nanosecond value
  | .epochSecond => fs.put? .epochSecond value

def monthNames : List (String × String) :=
  [("jan", "uary"), ("feb", "ruary"), ("mar", "ch"), ("apr", "il"), ("may", ""), ("jun", "e"),
   ("jul", "y"), ("aug", "ust"), ("sep", "tember"), ("oct", "ober"), ("nov", "ember"),
   ("dec", "ember")]

def weekdayNames : List (String × String) :=
  [("mon", "day"), ("tue", "sday"), ("wed", "nesday"), ("thu", "rsday"), ("fri", "day"),
   ("sat", "urday"), ("sun", "day")]

def takeWord? (word : String) (cs : List Char) : Option (List Char) :=
  if sameIgnoringAsciiCase (cs.take word.length) word.toList then some (cs.drop word.length)
  else none

def takeName (long : Bool) (names : List (String × String)) : Reader Int := fun cs =>
  names.zipIdx.findSome? fun ((start, rest), i) =>
    (takeWord? start cs).map fun cs =>
      (i, if long then (takeWord? rest cs).getD cs else cs)

def takeHalfDay : Reader Int := fun cs =>
  (takeWord? "am" cs).map (0, ·) <|> (takeWord? "pm" cs).map (1, ·)

/-- Decimals of a second, of which the tenth and further ones are skipped, as nanoseconds. -/
def takeFraction : Reader Int := fun cs =>
  let digits := cs.takeWhile Char.isDigit
  (readNat? (digits.take 9)).map fun n =>
    (n * placeValue (9 - (digits.take 9).length), cs.dropWhile Char.isDigit)

def takeFixedFraction (count : Nat) : Reader Int := fun cs =>
  (takeFixed count cs).map fun (n, cs) => (n * placeValue (9 - count), cs)

/-- An offset in seconds: a sign, two digits of hours and two of minutes, with colons or white space
between them. -/
def takeOffset (zulu minutesOptional : Bool) : Reader Int
  | [] => none
  | c :: cs =>
    if zulu && (c = 'Z' || c = 'z') then some (0, cs)
    else do
      let sign : Int ← if c = '+' then some 1 else if c = '-' ∨ c = '−' then some (-1) else none
      let (hours, cs) ← takeFixed 2 cs
      let cs := cs.dropWhile fun c => c = ':' || isBlank c
      let (minutes, cs) ← if minutesOptional && cs.isEmpty then some (0, []) else takeFixed 2 cs
      if minutes < 60 then some (sign * (hours * 3600 + minutes * 60 : Nat), cs) else none

def Item.take? (fs : Fields) (cs : List Char) : Item → Option (Fields × List Char)
  | .literal c =>
    match cs with
    | d :: cs => if c = d then some (fs, cs) else none
    | [] => none
  | .space => some (fs, trimStart cs)
  | .number n => do
    let (value, cs) ← n.take (trimStart cs)
    return (← n.put? fs value, cs)
  | .monthName long => do
    let (i, cs) ← takeName long monthNames cs
    return (← fs.put? .month (i + 1), cs)
  | .weekdayName long => do
    let (i, cs) ← takeName long weekdayNames cs
    return (← fs.put? .weekday i, cs)
  | .halfDay => do
    let (half, cs) ← takeHalfDay cs
    return (← fs.put? .halfDay half, cs)
  | .fraction =>
    match cs with
    | '.' :: cs => do
      let (nano, cs) ← takeFraction cs
      return (← fs.put? .nanosecond nano, cs)
    | cs => some (fs, cs)
  | .fractionAfterPoint digits =>
    match cs with
    | '.' :: cs => do
      let (nano, cs) ← takeFixedFraction digits cs
      return (← fs.put? .nanosecond nano, cs)
    | cs => some (fs, cs)
  | .fractionDigits digits => do
    let (nano, cs) ← takeFixedFraction digits cs
    return (← fs.put? .nanosecond nano, cs)
  | .zoneName => some (fs, cs.dropWhile (!isBlank ·))
  | .offset lenient => do
    let (seconds, cs) ← takeOffset lenient lenient (trimStart cs)
    return (← fs.put? .offset seconds, cs)
  | .timeMark =>
    match cs with
    | c :: cs => if c = 't' ∨ c = 'T' ∨ c = ' ' then some (fs, cs) else none
    | [] => none
  | .zone => do
    let cs := trimStart cs
    let (seconds, cs) ← (takeWord? "utc" cs).map (0, ·) <|> takeOffset true false cs
    return (← fs.put? .offset seconds, cs)

def readItems? (fs : Fields) : List Item → List Char → Option Fields
  | [], cs => if cs.isEmpty then some fs else none
  | item :: items, cs => (item.take? fs cs).bind fun (fs, cs) => readItems? fs items cs

def readFields? (text format : List Char) : Option Fields :=
  (items? format).bind (readItems? .empty · text)

end RecordRows.Calendar

namespace RecordRows

open Calendar

def Date.read? (text format : List Char) : Option Date :=
  (readFields? text format).bind (·.date.toOption)

/-- A timestamp, or midnight of a date where the fields determine only one. -/
def Timestamp.read? (text format : List Char) : Option Timestamp :=
  (readFields? text format).bind fun fs =>
    fs.timestamp? <|> fs.date.toOption.map ofDate

end RecordRows
