import RecordRows.Calendar.Timestamp
/-! The text of dates and timestamps. -/

namespace RecordRows

/-- Years from 0 to 9999 have four digits. All others have a sign and at least four. -/
def Calendar.yearText (year : Int) : List Char :=
  if 0 ≤ year ∧ year ≤ 9999 then Text.padNat 4 year.toNat
  else (if year < 0 then '-' else '+') :: Text.padNat 4 year.natAbs

def Date.chars (d : Date) : List Char :=
  Calendar.yearText d.year ++ '-' :: Text.padNat 2 d.month ++ '-' :: Text.padNat 2 d.day

def Date.text (d : Date) : String := String.ofList d.chars

/-- Nothing for a whole second, else as many groups of three digits as it takes. -/
def Time.fractionChars (t : Time) : List Char :=
  let nano := t.nano % 1000000000
  if nano = 0 then []
  else if nano % 1000000 = 0 then '.' :: Text.padNat 3 (nano / 1000000)
  else if nano % 1000 = 0 then '.' :: Text.padNat 6 (nano / 1000)
  else '.' :: Text.padNat 9 nano

def Time.chars (t : Time) : List Char :=
  Text.padNat 2 t.hour ++ ':' :: Text.padNat 2 t.minute ++
    ':' :: Text.padNat 2 (if t.isLeap then t.second + 1 else t.second) ++ t.fractionChars

def Timestamp.text (ts : Timestamp) : String :=
  String.ofList (ts.date.chars ++ ' ' :: ts.time.chars)

end RecordRows
