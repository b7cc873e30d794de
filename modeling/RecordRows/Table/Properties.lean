import RecordRows.Table.ColumnType.Reader
import RecordRows.Text.Split
/-! The properties that declare a table. -/

namespace RecordRows

inductive DecimalMode where
  | double
  | exact
  deriving DecidableEq, Repr

namespace DecimalMode

def name : DecimalMode → String
  | double => "double"
  | exact => "exact"

def read? (s : String) : Option DecimalMode :=
  let word := Text.asciiLower (Text.trim s.toList)
  if word = "double".toList then some double
  else if word = "exact".toList then some exact
  else none

def unknownMessage (s : String) : String :=
  "unknown decimal mode '" ++ String.ofList (Text.asciiLower (Text.trim s.toList)) ++
    "', expected 'double' or 'exact'"

end DecimalMode

inductive Property where
  | columns | columnTypes | delimiter | timestampFormats | decimalMode
  deriving DecidableEq, Repr

def Property.key : Property → String
  | columns => "columns"
  | columnTypes => "columns.types"
  | delimiter => "column.name.delimiter"
  | timestampFormats => "timestamp.formats"
  | decimalMode => "decimal.mode"

inductive ConfigError where
  | missingProperty (property : Property)
  | emptyDelimiter
  | unknownDecimalMode (value : String)
  | columnTypes (input : String) (fault : TypeFault)
  | columnCount (names types : Nat)
  /-- A field has an internal name that is not that of the position it encodes. -/
  | internalName (field : String) (position : Nat)
  | positionOutOfRange (field : String) (position columns : Nat)
  deriving DecidableEq, Repr

namespace ConfigError

def invalid (property : Property) (value detail : String) : String :=
  "invalid value " ++ Text.quote value ++ " for table property '" ++ property.key ++ "': " ++ detail

def message : ConfigError → String
  | missingProperty property => "missing table property '" ++ property.key ++ "'"
  | emptyDelimiter => invalid .delimiter "" "delimiter must not be empty"
  | unknownDecimalMode value => invalid .decimalMode value (DecimalMode.unknownMessage value)
  | columnTypes input fault =>
    "failed to parse column types " ++ Text.quote input ++ ": " ++ fault.message
  | columnCount names types =>
    "table declares " ++ Text.natText names ++ " column names but " ++ Text.natText types ++
      " column types"
  | internalName field position =>
    "internal column name (" ++ field ++ ") and position encoding (" ++ Text.natText position ++
      ") for the column name are at odds"
  | positionOutOfRange field position columns =>
    "internal column name (" ++ field ++ ") addresses position " ++ Text.natText position ++
      ", but the table has " ++ Text.natText columns ++ " columns"

end ConfigError

structure Properties where
  columnNames : List String
  columnTypes : List ColumnType
  timestampFormats : List String
  decimalMode : DecimalMode

namespace Properties

def readTypes (input : String) : Except ConfigError (List ColumnType) :=
  (ColumnType.readList input.toList).mapError (.columnTypes input)

def readDelimiter : Option String → Except ConfigError String
  | none => .ok ","
  | some delimiter => if delimiter.isEmpty then .error .emptyDelimiter else .ok delimiter

def readDecimalMode : Option String → Except ConfigError DecimalMode
  | none => .ok .double
  | some value =>
    match DecimalMode.read? value with
    | some mode => .ok mode
    | none => .error (.unknownDecimalMode value)

def required (property : Property) : Option String → Except ConfigError String
  | some value => .ok value
  | none => .error (.missingProperty property)

/-- Properties from keys and values. Of several values of one key the last one counts, and unknown
keys are ignored. A comma in a timestamp format stands behind a backslash. -/
def ofPairs (pairs : List (String × String)) : Except ConfigError Properties := do
  let get? property := pairs.reverse.lookup (Property.key property)
  let names ← required .columns (get? .columns)
  let types ← required .columnTypes (get? .columnTypes)
  let delimiter ← readDelimiter (get? .delimiter)
  let decimalMode ← readDecimalMode (get? .decimalMode)
  return {
    columnNames := Text.splitNames names delimiter
    columnTypes := ← readTypes types
    timestampFormats :=
      ((get? .timestampFormats).map (Text.splitUnescape · ',' '\x5c')).getD []
    decimalMode }

end Properties

end RecordRows
