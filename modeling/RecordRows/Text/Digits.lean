/-! Whole numbers written in ASCII digits. -/

namespace RecordRows.Text

def digitValue (c : Char) : Nat := c.toNat - '0'.toNat

/-- `10 ^ places`, the worth of a digit 1 with so many digits behind it. -/
def placeValue (places : Nat) : Nat := Nat.pow 10 places

theorem placeValue_pos (places : Nat) : 0 < placeValue places := Nat.pow_pos (by decide)

def digitsValue (cs : List Char) : Nat := cs.foldl (fun n c => n * 10 + digitValue c) 0

def readNat? (cs : List Char) : Option Nat :=
  if !cs.isEmpty && cs.all Char.isDigit then some (digitsValue cs) else none

def readInt? : List Char → Option Int
  | '+' :: cs => (readNat? cs).map Int.ofNat
  | '-' :: cs => (readNat? cs).map fun n => -Int.ofNat n
  | cs => (readNat? cs).map Int.ofNat

def readNatUpTo? (bound : Nat) : List Char → Option Nat
  | '+' :: cs => (readNat? cs).filter (· ≤ bound)
  | cs => (readNat? cs).filter (· ≤ bound)

def natChars (n : Nat) : List Char := Nat.toDigits 10 n

/-- The place of the first digit of a positive number, the last place being 0. -/
def log10 (n : Nat) : Nat := (natChars n).length - 1

def intChars (n : Int) : List Char :=
  if n < 0 then '-' :: natChars n.natAbs else natChars n.natAbs

def natText (n : Nat) : String := String.ofList (natChars n)

def intText (n : Int) : String := String.ofList (intChars n)

def padNat (width n : Nat) : List Char :=
  List.replicate (width - (natChars n).length) '0' ++ natChars n

def hexValue? (c : Char) : Option Nat :=
  if c.isDigit then some (digitValue c)
  else if 'a' ≤ c ∧ c ≤ 'f' then some (c.toNat - 'a'.toNat + 10)
  else if 'A' ≤ c ∧ c ≤ 'F' then some (c.toNat - 'A'.toNat + 10)
  else none

end RecordRows.Text
