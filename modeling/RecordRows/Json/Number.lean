import RecordRows.Json.Basic
import RecordRows.Text.Digits
import RecordRows.Text.Reader
/-! JSON numbers read from a text. -/

namespace RecordRows.JsonValue

open RecordRows.Text

structure NumberText where
  negative : Bool
  whole : List Char
  fraction : Option (List Char)
  exponent : Option Int

def takeWhole : Reader (List Char) := fun cs =>
  (takeDigits cs).filter fun (digits, _) => digits.head? ≠ some '0' ∨ digits.length = 1

def takeFraction : Reader (Option (List Char))
  | '.' :: cs => (takeDigits cs).map fun (digits, cs) => (some digits, cs)
  | cs => some (none, cs)

def takeExponentDigits (sign : Int) : Reader (Option Int) := fun cs =>
  (takeDigits cs).map fun (digits, cs) => (some (sign * digitsValue digits), cs)

def takeExponent : Reader (Option Int)
  | [] => some (none, [])
  | c :: cs =>
    if c = 'e' ∨ c = 'E' then
      match cs with
      | '+' :: cs => takeExponentDigits 1 cs
      | '-' :: cs => takeExponentDigits (-1) cs
      | cs => takeExponentDigits 1 cs
    else some (none, c :: cs)

def takeNumberText : Reader NumberText := fun cs => do
  let negative := cs.head? = some '-'
  let (whole, cs) ← takeWhole (if negative then cs.drop 1 else cs)
  let (fraction, cs) ← takeFraction cs
  let (exponent, cs) ← takeExponent cs
  return (⟨negative, whole, fraction, exponent⟩, cs)

/-- Takes digits into a significand as long as it fits into 64 bits, and says how many are left. -/
def significand (n : Nat) : List Char → Nat × Nat
  | [] => (n, 0)
  | c :: cs =>
    if n * 10 + digitValue c < UInt64.size then significand (n * 10 + digitValue c) cs
    else (n, cs.length + 1)

def nearest (x : Rat) : Double := .round .double false x

def power (exponent : Nat) : Rat := (nearest (placeValue exponent : Nat)).absolute

/-- `n * 10 ^ exponent` in double arithmetic: one multiplication or division by a power of ten of at
most 308, behind a division by `10 ^ 308` for smaller exponents. Too great a result is none. -/
def scaled? (n : Nat) (exponent : Int) : Option Double :=
  let x := nearest n
  if 308 < exponent then (if n = 0 then some x else none)
  else if 0 ≤ exponent then
    some (nearest (x.absolute * power exponent.toNat)) |>.filter (·.isFinite)
  else if -308 ≤ exponent then some (nearest (x.absolute / power (-exponent).toNat))
  else
    let small := nearest (x.absolute / power 308)
    if -616 ≤ exponent then some (nearest (small.absolute / power (-exponent - 308).toNat))
    else some (nearest 0)

def signed (negative : Bool) (x : Double) : Double := .ofFields .double negative x.magnitude

/-- A number with a point or an exponent, or one with too many digits. Digits past the significand
count as zeros before the point and not at all after it. -/
def NumberText.toDouble? (t : NumberText) : Option Double :=
  let fraction := t.fraction.getD []
  let (n, wholeLeft) := significand 0 t.whole
  let (n, fractionLeft) := significand n fraction
  let exponent := (t.exponent.getD 0) + wholeLeft - (fraction.length - fractionLeft : Nat)
  (scaled? n exponent).map (signed t.negative)

/-- Whole numbers of 64 bits are integers. Negative zero and all other numbers are doubles. -/
def NumberText.value? (t : NumberText) : Option JsonValue :=
  let n := digitsValue t.whole
  if t.fraction.isSome || t.exponent.isSome || UInt64.size ≤ n then t.toDouble?.map double
  else if !t.negative then some (integer n)
  else if n = 0 ∨ 9223372036854775808 < n then some (double (signed true (nearest n)))
  else some (integer (-n))

def readNumber : Reader JsonValue := fun cs =>
  (takeNumberText cs).bind fun (t, cs) => t.value?.map (·, cs)

end RecordRows.JsonValue
