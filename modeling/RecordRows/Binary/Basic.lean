import RecordRows.Text.Digits
/-! Binary floating point numbers by their bits, and the rounding of a rational to one of them. -/

namespace RecordRows

inductive Width where
  | single
  | double
  deriving DecidableEq, Repr

namespace Width

def fractionBits : Width → Nat
  | single => 23
  | double => 52

def exponentBits : Width → Nat
  | single => 8
  | double => 11

def bits (w : Width) : Nat := 1 + w.exponentBits + w.fractionBits

def minExponent : Width → Int
  | single => -149
  | double => -1074

def infinity (w : Width) : Nat := ((1 <<< w.exponentBits) - 1) <<< w.fractionBits

end Width

/-- A floating point number: sign, biased exponent and fraction, from the highest bit down. -/
structure Binary (w : Width) where
  bits : BitVec w.bits
  deriving DecidableEq, Repr

abbrev Single := Binary .single
abbrev Double := Binary .double

def scaleByTwo (mantissa : Nat) (exponent : Int) : Rat :=
  if 0 ≤ exponent then (mantissa <<< exponent.toNat : Nat)
  else mkRat mantissa (1 <<< (-exponent).toNat)

def roundHalfEven (x : Rat) : Int :=
  let low := x.floor
  let rest := x - low
  if rest < 1 / 2 then low
  else if 1 / 2 < rest then low + 1
  else low + low % 2

namespace Binary

variable {w : Width}

def negative (x : Binary w) : Bool := x.bits.msb

def magnitude (x : Binary w) : Nat := (x.bits.setWidth (w.bits - 1)).toNat

def exponentField (x : Binary w) : Nat := x.magnitude >>> w.fractionBits

def fraction (x : Binary w) : Nat := (x.bits.setWidth w.fractionBits).toNat

def isNaN (x : Binary w) : Bool := w.infinity < x.magnitude

def isFinite (x : Binary w) : Bool := x.magnitude < w.infinity

def mantissa (x : Binary w) : Nat :=
  if x.exponentField = 0 then x.fraction else (1 <<< w.fractionBits) + x.fraction

def exponent (x : Binary w) : Int := w.minExponent + ((x.exponentField - 1 : Nat) : Int)

def absolute (x : Binary w) : Rat := scaleByTwo x.mantissa x.exponent

def toRat? (x : Binary w) : Option Rat :=
  if x.isFinite then some (if x.negative then -x.absolute else x.absolute) else none

def ofFields (w : Width) (negative : Bool) (magnitude : Nat) : Binary w :=
  ⟨BitVec.ofNat w.bits ((if negative then 1 <<< (w.bits - 1) else 0) + magnitude)⟩

def zero (w : Width) (negative : Bool) : Binary w := ofFields w negative 0

def infinite (w : Width) (negative : Bool) : Binary w := ofFields w negative w.infinity

def nan (w : Width) : Binary w := ofFields w false (w.infinity + (1 <<< (w.fractionBits - 1)))

def floorLog2 (x : Rat) : Int :=
  let guess : Int := (Nat.log2 x.num.natAbs : Int) - (Nat.log2 x.den : Int)
  if x < scaleByTwo 1 guess then guess - 1 else guess

/-- The magnitude field of the number nearest to `x`, which is not negative. A half goes to the
even neighbour, and what is past the greatest number is infinite. -/
def roundMagnitude (w : Width) (x : Rat) : Nat :=
  if x = 0 then 0
  else
    let place := max w.minExponent (floorLog2 x - w.fractionBits)
    let steps := (roundHalfEven (x / scaleByTwo 1 place)).toNat
    min w.infinity (((place - w.minExponent).toNat <<< w.fractionBits) + steps)

def round (w : Width) (negative : Bool) (x : Rat) : Binary w :=
  ofFields w negative (roundMagnitude w x)

def ofInt (w : Width) (n : Int) : Binary w := round w (n < 0) (n.natAbs : Rat)

def convert {v : Width} (w : Width) (x : Binary v) : Binary w :=
  if x.isNaN then nan w
  else if x.isFinite then round w x.negative x.absolute
  else infinite w x.negative

/-- The number nearest to plus or minus `digits * 10 ^ exponent`. Exponents whose result is zero or
infinite in any case are told apart before the power is formed. -/
def ofScientific (w : Width) (negative : Bool) (digits : Nat) (exponent : Int) : Binary w :=
  let top := exponent + (Nat.toDigits 10 digits).length
  if digits = 0 ∨ top < -400 then zero w negative
  else if 400 < top then infinite w negative
  else if 0 ≤ exponent then round w negative (digits * Text.placeValue exponent.toNat : Nat)
  else round w negative (mkRat digits (Text.placeValue (-exponent).toNat))

def truncate (x : Binary w) : Binary w :=
  if x.isFinite then round w x.negative x.absolute.floor else x

def order (x : Binary w) : Int := if x.negative then -x.magnitude else x.magnitude

def le (x y : Binary w) : Bool := !x.isNaN && !y.isNaN && x.order ≤ y.order

def lt (x y : Binary w) : Bool := !x.isNaN && !y.isNaN && x.order < y.order

def truncate? (x : Binary w) : Option Int :=
  x.toRat?.map fun r => r.num.tdiv r.den

/-- The integer part of a number, cut off at the bounds of a long, and zero for what is
no number. -/
def toInt64 (x : Binary w) : Int64 :=
  match x.truncate? with
  | some n => Int64.ofInt (max Int64.minValue.toInt (min Int64.maxValue.toInt n))
  | none => if x.isNaN then 0 else if x.negative then Int64.minValue else Int64.maxValue

end Binary

end RecordRows
