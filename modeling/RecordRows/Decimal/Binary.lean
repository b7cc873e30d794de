import RecordRows.Decimal.Basic
import RecordRows.Binary.Basic
/-! Decimals from binary numbers and back. -/

namespace RecordRows.Decimal

structure Parts where
  coefficient : Nat
  scale : Nat

/-- Expands `binaryPlaces` places after a binary point. Each is worth one halving, which is exact
for an even coefficient and else a factor of five with one more decimal place, as long as there is
room for it. -/
def Parts.expand : Nat → Parts → Parts
  | 0, p => p
  | binaryPlaces + 1, p =>
    if p.coefficient % 2 = 0 then expand binaryPlaces ⟨p.coefficient / 2, p.scale⟩
    else if p.coefficient * 5 < capacity then
      expand binaryPlaces ⟨p.coefficient * 5, p.scale + 1⟩
    else expand binaryPlaces ⟨p.coefficient / 2, p.scale⟩

def tenth (coefficient : Nat) : Nat := (coefficient + 5) / 10

def Parts.drop : Nat → Parts → Parts
  | 0, p => p
  | excess + 1, p =>
    if p.coefficient < 10 then ⟨0, 0⟩ else drop excess ⟨tenth p.coefficient, p.scale - 1⟩

def dropAbove (bound coefficient : Nat) : Nat → Parts
  | 0 => ⟨coefficient, 0⟩
  | scale + 1 =>
    if coefficient < bound then ⟨coefficient, scale + 1⟩
    else dropAbove bound (tenth coefficient) scale

def dropZeros (coefficient : Nat) : Nat → Parts
  | 0 => ⟨coefficient, 0⟩
  | scale + 1 =>
    if coefficient % 10 = 0 then dropZeros (coefficient / 10) scale else ⟨coefficient, scale + 1⟩

/-- Coefficients below this one have digits that a number of the given width vouches for. -/
def vouchedBound : Width → Nat
  | .single => 1 <<< 24
  | .double => 1 <<< 52

/-- The decimal of a finite number of magnitude below `2 ^ 96`, with no more digits than the width
of the number vouches for. -/
def ofBinary? {w : Width} (x : Binary w) : Option Decimal :=
  if !x.isFinite then none
  else if x.mantissa = 0 then some (zero x.negative)
  else if 0 ≤ x.exponent then make? x.negative (x.mantissa <<< x.exponent.toNat) 0
  else
    let exact := Parts.expand (-x.exponent).toNat ⟨x.mantissa, 0⟩
    let short := Parts.drop (exact.scale - 28) exact
    let vouched := dropAbove (vouchedBound w) short.coefficient short.scale
    let p := dropZeros vouched.coefficient vouched.scale
    make? x.negative p.coefficient p.scale

def nearest (x : Rat) : Rat := (Binary.round .double false x).absolute

/-- A whole decimal gives the nearest double. With places, the integer part and the fraction are
rounded on their own, and their sum is rounded to the places of the decimal, each step in double
arithmetic. -/
def toDouble (d : Decimal) : Double :=
  let power := Text.placeValue d.scale
  let whole := nearest (d.coefficient / power : Nat)
  if d.scale = 0 then Binary.round .double (d.negative && d.coefficient != 0) whole
  else if d.coefficient % power = 0 then Binary.round .double d.negative whole
  else
    let scaled := nearest power
    let fraction := nearest (nearest (d.coefficient % power : Nat) / scaled)
    let units := nearest (nearest (whole + fraction) * scaled)
    let rounded := (units + 1 / 2).floor
    Binary.round .double d.negative (rounded / scaled)

end RecordRows.Decimal
