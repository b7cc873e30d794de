import RecordRows.Binary.Shortest
/-! The text of a binary number without an exponent. -/

namespace RecordRows

def Digits.positional (d : Digits) : List Char :=
  if d.point ≤ 0 then "0.".toList ++ List.replicate (-d.point).toNat '0' ++ d.digits
  else if d.digits.length ≤ d.point then
    d.digits ++ List.replicate (d.point.toNat - d.digits.length) '0'
  else d.digits.take d.point.toNat ++ '.' :: d.digits.drop d.point.toNat

namespace Binary

variable {w : Width}

/-- The shortest digits in positional notation, with the sign of zero. -/
def text (x : Binary w) : String :=
  if x.isNaN then "NaN"
  else
    (if x.negative then "-" else "") ++
      (if !x.isFinite then "inf"
       else if x.magnitude = 0 then "0"
       else String.ofList x.shortest.positional)

end Binary

end RecordRows
