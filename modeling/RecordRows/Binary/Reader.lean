import RecordRows.Binary.Basic
import RecordRows.Text.Digits
import RecordRows.Text.LowerCase
/-! Binary numbers read from a text. -/

namespace RecordRows.Binary

open RecordRows.Text

def readExponent? : List Char → Option Int
  | [] => some 0
  | c :: cs => if c = 'e' ∨ c = 'E' then readInt? cs else none

/-- Digits with at most one point and at least one digit, then an optional exponent. -/
def readMagnitude? (w : Width) (negative : Bool) (cs : List Char) : Option (Binary w) :=
  let whole := cs.takeWhile Char.isDigit
  let rest := cs.dropWhile Char.isDigit
  let (fraction, rest) := match rest with
    | '.' :: rest => (rest.takeWhile Char.isDigit, rest.dropWhile Char.isDigit)
    | rest => ([], rest)
  if whole.isEmpty && fraction.isEmpty then none
  else (readExponent? rest).map fun exponent =>
    ofScientific w negative (digitsValue (whole ++ fraction)) (exponent - fraction.length)

def readUnsigned? (w : Width) (negative : Bool) (cs : List Char) : Option (Binary w) :=
  let word := asciiLower cs
  if word = "inf".toList ∨ word = "infinity".toList then some (infinite w negative)
  else if word = "nan".toList then some (nan w)
  else readMagnitude? w negative cs

def read? (w : Width) : List Char → Option (Binary w)
  | '-' :: cs => readUnsigned? w true cs
  | '+' :: cs => readUnsigned? w false cs
  | cs => readUnsigned? w false cs

end RecordRows.Binary
