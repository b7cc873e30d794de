import RecordRows.Text.Digits
/-! Decimal numbers with a bounded coefficient. -/

namespace RecordRows

def Decimal.capacity : Nat := 79228162514264337593543950336

/-- Plus or minus `coefficient / 10 ^ scale`. -/
structure Decimal where
  negative : Bool
  coefficient : Nat
  scale : Nat
  coefficient_lt : coefficient < Decimal.capacity
  scale_le : scale ≤ 28
  deriving DecidableEq

namespace Decimal

/-- The decimal of the given parts, if they are in range. Zero has no sign. -/
def make? (negative : Bool) (coefficient scale : Nat) : Option Decimal :=
  if h : coefficient < capacity ∧ scale ≤ 28 then
    some ⟨negative && coefficient != 0, coefficient, scale, h.1, h.2⟩
  else none

def zero (negative : Bool) : Decimal := ⟨negative, 0, 0, by decide, by decide⟩

def ofInt (n : Int) (bound : n.natAbs < capacity) : Decimal :=
  ⟨n < 0, n.natAbs, 0, bound, by decide⟩

def ofInt32 (n : Int32) : Decimal :=
  ofInt n.toInt (by have := n.toInt_lt; have := n.le_toInt; unfold capacity; omega)

def ofInt64 (n : Int64) : Decimal :=
  ofInt n.toInt (by have := n.toInt_lt; have := n.le_toInt; unfold capacity; omega)

def toRat (d : Decimal) : Rat :=
  mkRat (if d.negative then -d.coefficient else d.coefficient) (Text.placeValue d.scale)

def truncate (d : Decimal) : Int :=
  let whole : Int := (d.coefficient / Text.placeValue d.scale : Nat)
  if d.negative then -whole else whole

def text (d : Decimal) : String :=
  let digits := Text.padNat (d.scale + 1) d.coefficient
  let whole := digits.take (digits.length - d.scale)
  let fraction := digits.drop (digits.length - d.scale)
  String.ofList ((if d.negative then ['-'] else []) ++ whole ++
    (if d.scale = 0 then [] else '.' :: fraction))

theorem round_half_up_le (c p : Nat) (positive : 0 < p) : (c + p / 2) / p ≤ c := by
  apply Nat.le_of_lt_succ
  rw [Nat.div_lt_iff_lt_mul positive, Nat.succ_mul]
  have : c ≤ c * p := Nat.le_mul_of_pos_right c positive
  omega

def roundTo (places : Nat) (d : Decimal) : Decimal :=
  if h : d.scale ≤ places then d
  else
    let step := Text.placeValue (d.scale - places)
    let rounded := (d.coefficient + step / 2) / step
    ⟨d.negative && rounded != 0, rounded, places,
      Nat.lt_of_le_of_lt (round_half_up_le _ _ (Text.placeValue_pos _)) d.coefficient_lt,
      Nat.le_trans (Nat.le_of_lt (Nat.lt_of_not_le h)) d.scale_le⟩

/-- Divided by `10 ^ n`, with at most 28 digits after the point. A half goes away from zero, and the
sign stays. -/
def movePointLeft (d : Decimal) (n : Nat) : Decimal :=
  let step := Text.placeValue (d.scale + n - 28)
  ⟨d.negative, (d.coefficient + step / 2) / step, min (d.scale + n) 28,
    Nat.lt_of_le_of_lt (round_half_up_le _ _ (Text.placeValue_pos _)) d.coefficient_lt,
    Nat.min_le_right _ _⟩

def wholeWidth (d : Decimal) : Nat :=
  let whole := d.coefficient / Text.placeValue d.scale
  if whole = 0 then 0 else Text.log10 whole + 1

/-- Rounded to `scale` places, if at most `precision - scale` digits stand before the point then. -/
def fit? (precision scale : Nat) (d : Decimal) : Option Decimal :=
  let rounded := d.roundTo scale
  if precision - scale < rounded.wholeWidth then none else some rounded

end Decimal

end RecordRows
