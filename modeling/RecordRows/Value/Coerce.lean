import RecordRows.Binary.Reader
import RecordRows.Calendar.Reader
import RecordRows.Decimal.Binary
import RecordRows.Decimal.Reader
import RecordRows.Text.Utf8
import RecordRows.Value.Error
/-! Coercions of values. Numbers widen and narrow within their ranges, and texts are read. -/

namespace RecordRows

abbrev Coerced (α : Type) := Except ValueError (Option α)

def int64? (n : Int) : Option Int64 :=
  if -9223372036854775808 ≤ n ∧ n ≤ 9223372036854775807 then some (Int64.ofInt n) else none

def int32? (n : Int) : Option Int32 :=
  if -2147483648 ≤ n ∧ n ≤ 2147483647 then some (Int32.ofInt n) else none

/-- The byte of an integer that is a signed or an unsigned byte. Below zero it has the bits of the
signed one. -/
def byte? (n : Int64) : Option UInt8 :=
  if -128 ≤ n ∧ n ≤ -1 then some n.toInt8.toUInt8
  else if 0 ≤ n ∧ n ≤ 255 then some n.toUInt64.toUInt8
  else none

def defaultDateFormat : List Char := "%Y-%m-%d".toList

def defaultTimestampFormats : List (List Char) :=
  ["%Y-%m-%d %H:%M:%S%.f".toList, "%Y-%m-%dT%H:%M:%S%.f".toList]

def orError {α : Type} (error : ValueError) : Option α → Coerced α
  | some a => .ok (some a)
  | none => .error error

def readText {α : Type} (target : Target) (read? : List Char → Option α) (s : String) : Coerced α :=
  orError (.unparseable s target) (read? (Text.trim s.toList))

def readLong? (cs : List Char) : Option Int64 := (Text.readInt? cs).bind int64?

def readBool? (cs : List Char) : Option Bool :=
  if Text.sameIgnoringAsciiCase cs "true".toList then some true
  else if Text.sameIgnoringAsciiCase cs "false".toList then some false
  else none

/-- Whether a double lies within the doubles nearest to the bounds of a long. The upper one is
already past the greatest long and does not count. -/
def withinLong (x : Double) : Bool :=
  x.isFinite && Binary.le (.ofInt .double Int64.minValue.toInt) x &&
    x.lt (.ofInt .double Int64.maxValue.toInt)

def doubleToLong (x : Double) : Coerced Int64 :=
  orError (.outOfRange x.text .long)
    (if withinLong x.truncate then some x.truncate.toInt64 else none)

namespace Value

def mismatch {α : Type} (wanted : Wanted) (v : Value) : Except ValueError α :=
  .error (.mismatch wanted v.kind)

def toLong : Value → Coerced Int64
  | null => .ok none
  | int n => .ok (some (Int64.ofInt n.toInt))
  | long n => .ok (some n)
  | float x => doubleToLong (x.convert .double)
  | double x => doubleToLong x
  | decimal d => orError (.outOfRange d.text .long) (int64? d.truncate)
  | string s => readText .long readLong? s
  | v => mismatch .integer v

def toInt (v : Value) : Coerced Int32 :=
  match v.toLong with
  | .error e => .error e
  | .ok none => .ok none
  | .ok (some n) => orError (.outOfRange (Text.intText n.toInt) .int) (int32? n.toInt)

def toBool : Value → Coerced Bool
  | null => .ok none
  | bool b => .ok (some b)
  | string s => readText .boolean readBool? s
  | v => mismatch .boolean v

def toDouble : Value → Coerced Double
  | null => .ok none
  | int n => .ok (some (.ofInt .double n.toInt))
  | long n => .ok (some (.ofInt .double n.toInt))
  | float x => .ok (some (x.convert .double))
  | double x => .ok (some x)
  | decimal d => .ok (some d.toDouble)
  | string s => readText .double (Binary.read? .double) s
  | v => mismatch .floatingPoint v

def toFloat : Value → Coerced Single
  | float x => .ok (some x)
  | v => v.toDouble.map (·.map (·.convert .single))

def toDecimal : Value → Coerced Decimal
  | null => .ok none
  | int n => .ok (some (.ofInt32 n))
  | long n => .ok (some (.ofInt64 n))
  | float x => orError (.outOfRange x.text .decimal) (Decimal.ofBinary? x)
  | double x => orError (.outOfRange x.text .decimal) (Decimal.ofBinary? x)
  | decimal d => .ok (some d)
  | string s => readText .decimal Decimal.read? s
  | v => mismatch .decimal v

def toText : Value → Coerced String
  | null => .ok none
  | bytes bs => .ok (some (Text.Utf8.decodeLossy bs))
  | v => if v.isCompound then mismatch .scalar v else .ok (some v.text)

def toByte (v : Value) : Except ValueError UInt8 :=
  match v.toLong with
  | .error e => .error e
  | .ok none => mismatch .byte v
  | .ok (some n) =>
    match byte? n with
    | some b => .ok b
    | none => .error (.outOfRange (Text.intText n.toInt) .byte)

def toBytes : Value → Coerced (List UInt8)
  | null => .ok none
  | bytes bs => .ok (some bs)
  | string s => .ok (some (Text.Utf8.encode s))
  | array items => (items.mapM toByte).map some
  | v => mismatch .bytes v

def toArray : Value → Coerced (List Value)
  | null => .ok none
  | array items => .ok (some items)
  | bytes bs => .ok (some (bs.map fun b => int (Int32.ofInt b.toNat)))
  | v => mismatch .array v

def ofEpochMilli (n : Int64) : Coerced Timestamp :=
  orError (.outOfRange (Text.intText n.toInt) .timestamp) (Timestamp.ofEpochMilli? n.toInt)

def numberToTimestamp (v : Value) : Coerced Timestamp :=
  match v.toLong with
  | .error e => .error e
  | .ok none => .ok none
  | .ok (some n) => ofEpochMilli n

def toDate (format : Option String) : Value → Coerced Date
  | null => .ok none
  | date d => .ok (some d)
  | timestamp ts => .ok (some ts.date)
  | string s =>
    readText .date (Date.read? · ((format.map String.toList).getD defaultDateFormat)) s
  | v =>
    match v with
    | int _ | long _ | float _ | double _ | decimal _ => v.numberToTimestamp.map (·.map (·.date))
    | v => mismatch .date v

def readByFormats? (formats : List (List Char)) (text : List Char) : Option Timestamp :=
  formats.findSome? (Timestamp.read? text)

def toTimestamp (format : Option String) : Value → Coerced Timestamp
  | null => .ok none
  | timestamp ts => .ok (some ts)
  | date d => .ok (some (.ofDate d))
  | string s =>
    readText .timestamp
      (readByFormats? ((format.map String.toList).toList ++ defaultTimestampFormats)) s
  | v =>
    match v with
    | int _ | long _ | float _ | double _ | decimal _ => v.numberToTimestamp
    | v => mismatch .timestamp v

end Value

end RecordRows
