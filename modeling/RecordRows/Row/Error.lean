import RecordRows.Record.Basic
import RecordRows.Table.ColumnType
/-! Why a record has no row. -/

namespace RecordRows

inductive FieldError where
  | access (e : AccessError)
  | value (e : ValueError)
  | unsupported (type : ColumnType)
  | timestamp (input : String)
  | decimalOverflow (d : Decimal) (precision scale : Nat)

def FieldError.message : FieldError → String
  | access e => e.message
  | value e => e.message
  | unsupported type => "cannot be converted to unsupported type " ++ type.text
  | timestamp input => "cannot parse " ++ Text.quote input ++ " as timestamp"
  | decimalOverflow d precision scale =>
    d.text ++ " does not fit decimal(" ++ Text.natText precision ++ "," ++ Text.natText scale ++ ")"

structure ConversionError where
  record : String
  field : String
  cause : FieldError

def ConversionError.message (e : ConversionError) : String :=
  "error converting field '" ++ e.field ++ "' of record " ++ e.record ++ ": " ++ e.cause.message

end RecordRows
