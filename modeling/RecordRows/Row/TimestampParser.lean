import RecordRows.Row.Error
/-! Timestamps of timestamp columns. -/

namespace RecordRows

/-- Reads timestamps by configured formats after the declared and the default ones. -/
structure TimestampParser where
  formats : List String

namespace TimestampParser

/-- The format that stands for a count of milliseconds since the start of 1970, in any case. -/
def millisFormat : List Char := "millis".toList

def ofFormats (formats : List String) : TimestampParser :=
  ⟨(formats.map fun f => String.ofList (Text.trim f.toList)).filter (!·.isEmpty)⟩

def readBy? (text : List Char) (format : String) : Option Timestamp :=
  if Text.sameIgnoringAsciiCase format.toList millisFormat then
    (readLong? text).bind fun n => Timestamp.ofEpochMilli? n.toInt
  else Timestamp.read? text format.toList

def parse (p : TimestampParser) (v : Value) (format : Option String) :
    Except FieldError (Option Timestamp) :=
  match v.toTimestamp format with
  | .ok result => .ok result
  | .error (.unparseable input _) =>
    match p.formats.findSome? (readBy? (Text.trim input.toList)) with
    | some ts => .ok (some ts)
    | none => .error (.timestamp input)
  | .error e => .error (.value e)

end TimestampParser

end RecordRows
