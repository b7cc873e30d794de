import RecordRows.Binary.Basic
import RecordRows.Text.Digits
/-! The fewest decimal digits that read back as a given binary number. -/

namespace RecordRows

/-- `0.d₁d₂…dₙ * 10 ^ point`, without zeros at the end. -/
structure Digits where
  digits : List Char
  point : Int
  deriving DecidableEq, Repr

structure Interval where
  lo : Rat
  hi : Rat
  closed : Bool

def Interval.has (i : Interval) (x : Rat) : Bool :=
  if i.closed then i.lo ≤ x && x ≤ i.hi else i.lo < x && x < i.hi

def powerOfTen (exponent : Int) : Rat :=
  if 0 ≤ exponent then (Text.placeValue exponent.toNat : Nat)
  else mkRat 1 (Text.placeValue (-exponent).toNat)

namespace Binary

variable {w : Width}

/-- The magnitudes that round to a positive number: half the way to its neighbours, of which the
lower one is nearer where the exponent changes. A half goes to the even mantissa. -/
def roundingInterval (x : Binary w) : Interval :=
  let quarter := scaleByTwo 1 (x.exponent - 2)
  let below := if x.fraction = 0 ∧ 1 < x.exponentField then 1 else 2
  { lo := ((4 * x.mantissa - below : Nat) : Rat) * quarter
    hi := ((4 * x.mantissa + 2 : Nat) : Rat) * quarter
    closed := x.mantissa % 2 = 0 }

/-- The nearest multiple of a grid's step in the interval, among the two around `value`. Of two
equally near ones it is the even one. -/
def onGrid? (interval : Interval) (value step : Rat) : Option Nat :=
  let low := (value / step).floor.toNat
  let inLow := interval.has (low * step)
  let inHigh := interval.has ((low + 1 : Nat) * step)
  if inLow && inHigh then some (roundHalfEven (value / step)).toNat
  else if inLow then some low
  else if inHigh then some (low + 1)
  else none

def searchGrid (interval : Interval) (value : Rat) : Nat → Int → Nat × Int
  | 0, place => ((value / powerOfTen place).floor.toNat, place)
  | tries + 1, place =>
    match onGrid? interval value (powerOfTen place) with
    | some n => (n, place)
    | none => searchGrid interval value tries (place - 1)

def pointOf (value : Rat) : Int :=
  ((Text.natChars (value * powerOfTen 400).floor.toNat).length : Int) - 400

/-- The shortest digits in the rounding interval of a positive finite number, the nearest of
those to it. Seventeen digits always suffice. -/
def shortest (x : Binary w) : Digits :=
  let value := x.absolute
  let (n, place) := searchGrid x.roundingInterval value 17 (pointOf value - 1)
  let digits := Text.natChars n
  { digits := (digits.reverse.dropWhile (· == '0')).reverse
    point := digits.length + place }

end Binary

end RecordRows
