import RecordRows.Text.Quoted.Table
/-! Quotation of a text inside a message. -/

namespace RecordRows.Text

def hexDigits (n : Nat) : List Char := Nat.toDigits 16 n

def isPrintable (c : Char) : Bool :=
  if c.toNat < 0x7f then 0x20 ≤ c.toNat else !unprintableRanges.has c

def quoteChar (c : Char) : List Char :=
  if c = '\x22' then ['\x5c', '\x22']
  else if c = '\x5c' then ['\x5c', '\x5c']
  else if c = '\n' then ['\x5c', 'n']
  else if c = '\r' then ['\x5c', 'r']
  else if c = '\t' then ['\x5c', 't']
  else if c = '\x00' then ['\x5c', '0']
  else if isPrintable c then [c]
  else ['\x5c', 'u', '\x7b'] ++ hexDigits c.toNat ++ ['\x7d']

def quoteChars (cs : List Char) : List Char :=
  ['\x22'] ++ cs.flatMap quoteChar ++ ['\x22']

def quote (s : String) : String := String.ofList (quoteChars s.toList)

end RecordRows.Text
