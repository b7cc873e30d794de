import RecordRows.Decimal.Basic
/-! Decimals read from a text. -/

namespace RecordRows.Decimal

open RecordRows.Text

structure Reading where
  coefficient : Nat
  scale : Nat
  afterPoint : Bool
  hasDigit : Bool

def roundsUp (cs : List Char) : Bool := cs.head?.any fun c => c.isDigit && 5 ≤ digitValue c

/-- Behind the last place that there is room for, only digits and underscores may follow. The first
of them rounds, and the others count for nothing. -/
def Reading.roundOn (r : Reading) (negative : Bool) (cs : List Char) : Option Decimal :=
  if !cs.all (fun c => c.isDigit || c = '_') then none
  else if !roundsUp cs then make? negative r.coefficient r.scale
  else if r.coefficient + 1 < capacity then make? negative (r.coefficient + 1) r.scale
  else if r.scale = 0 then none
  else make? negative ((r.coefficient + 5) / 10) (r.scale - 1)

def narrowBound : Nat := 18446744073709549060

/-- Rounds at the greatest scale. Underscores before the rounding digit are skipped behind a wide
coefficient; behind a narrow one an underscore stands for a zero. -/
def Reading.roundAtScale (r : Reading) (negative : Bool) (cs : List Char) : Option Decimal :=
  r.roundOn negative (if r.coefficient < narrowBound then cs else cs.dropWhile (· = '_'))

def readFrom (negative : Bool) (r : Reading) : List Char → Option Decimal
  | [] => if r.hasDigit then make? negative r.coefficient r.scale else none
  | c :: cs =>
    if r.scale = 28 then r.roundAtScale negative (c :: cs)
    else if c.isDigit then
      let coefficient := r.coefficient * 10 + digitValue c
      if coefficient < capacity then
        let scale := if r.afterPoint then r.scale + 1 else r.scale
        readFrom negative ⟨coefficient, scale, r.afterPoint, true⟩ cs
      else if r.afterPoint then r.roundOn negative (c :: cs)
      else none
    else if c = '.' ∧ !r.afterPoint then readFrom negative { r with afterPoint := true } cs
    else if c = '_' ∧ r.hasDigit then readFrom negative r cs
    else none

def readPlain? : List Char → Option Decimal
  | '-' :: cs => readFrom true ⟨0, 0, false, false⟩ cs
  | '+' :: cs => readFrom false ⟨0, 0, false, false⟩ cs
  | cs => readFrom false ⟨0, 0, false, false⟩ cs

/-- Moves the point by an exponent of at most 28: to the left with rounding, to the right first
within the scale and then by factors of ten. -/
def shift? (base : Decimal) : List Char → Option Decimal
  | '-' :: cs => (readNatUpTo? 28 cs).map base.movePointLeft
  | cs =>
    (readNatUpTo? 28 cs).bind fun n =>
      make? base.negative (base.coefficient * placeValue (n - base.scale)) (base.scale - n)

def readScientific? (cs : List Char) : Option Decimal :=
  let isMark := fun c => c = 'e' ∨ c = 'E'
  match cs.dropWhile (!isMark ·) with
  | [] => none
  | _ :: exponent => (readPlain? (cs.takeWhile (!isMark ·))).bind (shift? · exponent)

def read? (cs : List Char) : Option Decimal := readPlain? cs <|> readScientific? cs

end RecordRows.Decimal
