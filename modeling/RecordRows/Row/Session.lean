import RecordRows.Row.Cell
import RecordRows.Row.TimestampParser
import RecordRows.Table.Positions
/-! Sessions, which convert records into the rows of one table. -/

namespace RecordRows

/-- Positions are resolved once for a session; only the count of rows changes. -/
structure Session where
  table : Table
  positions : Positions
  timestamps : TimestampParser
  decimalMode : DecimalMode
  rows : UInt64

namespace Session

def rowCount (s : Session) : Nat := s.rows.toNat

def start (properties : Properties) (source : Schema) : Except ConfigError Session := do
  let table ← Table.ofNames properties.columnNames properties.columnTypes
  let positions ← Positions.resolve table source
  return {
    table, positions
    timestamps := .ofFormats properties.timestampFormats
    decimalMode := properties.decimalMode
    rows := 0 }

def accessCell {α : Type} (r : Record) (name : String) (coerce : Value → Coerced α)
    (make : α → Cell) : Except FieldError Cell :=
  match r.access name coerce with
  | .ok result => .ok (Cell.ofOption make result)
  | .error e => .error (.access e)

def exactCell (r : Record) (name : String) (precision scale : Nat) : Except FieldError Cell :=
  match r.access name Value.toDecimal with
  | .error e => .error (.access e)
  | .ok none => .ok .absent
  | .ok (some d) =>
    match d.fit? precision scale with
    | some fitted => .ok (.decimal fitted)
    | none => .error (.decimalOverflow d precision scale)

def timestampCell (s : Session) (r : Record) (field : Field DataType) : Except FieldError Cell :=
  match r.get? field.name with
  | none => .ok .absent
  | some v => (s.timestamps.parse v field.type.format).map (Cell.ofOption .timestamp)

def typedCell (r : Record) (field : Field DataType) : Except FieldError Cell :=
  match r.get? field.name with
  | none => .ok .absent
  | some v => (Cell.ofTyped v field.type).mapError .value

def convertField (s : Session) (r : Record) (field : Field DataType) (type : ColumnType) :
    Except FieldError Cell :=
  match type with
  | .array _ => accessCell r field.name Value.toArray fun items => .list (Cell.ofValues items)
  | .map _ _ | .struct _ => typedCell r field
  | .union _ => .error (.unsupported type)
  | .primitive p =>
    match p with
    | .tinyint | .smallint | .int => accessCell r field.name Value.toInt .int
    | .bigint => accessCell r field.name Value.toLong .long
    | .boolean => accessCell r field.name Value.toBool .boolean
    | .float => accessCell r field.name Value.toFloat .float
    | .double => accessCell r field.name Value.toDouble .double
    | .string | .varchar _ | .char _ => accessCell r field.name Value.toText .string
    | .binary => accessCell r field.name Value.toBytes .binary
    | .date => accessCell r field.name (Value.toDate field.type.format) .date
    | .timestamp => timestampCell s r field
    | .decimal precision scale =>
      match s.decimalMode with
      | .double => accessCell r field.name Value.toDouble .double
      | .exact => exactCell r field.name precision scale
    | .void | .timestampLocal | .intervalYearMonth | .intervalDayTime =>
      .error (.unsupported type)

/-- Converts the fields that have a column and puts their cells into the row. A later field of the
same column replaces an earlier one. -/
def fill (s : Session) (r : Record) (row : Row) :
    List (Field DataType) → Except ConversionError Row
  | [] => .ok row
  | field :: fields =>
    match s.positions.ordinal? field.name with
    | none => fill s r row fields
    | some ordinal =>
      match s.table.columns[ordinal]? with
      | none => fill s r row fields
      | some column =>
        match s.convertField r field column.type with
        | .ok cell => fill s r (row.set ordinal cell) fields
        | .error cause => .error ⟨r.identity, field.name, cause⟩

/-- The row of a record: one cell for each column, absent where the record has no field for it. -/
def convert (s : Session) (r : Record) : Except ConversionError Row :=
  s.fill r (List.replicate s.table.size .absent) r.schema

def step (s : Session) (r : Record) : Except ConversionError Row × Session :=
  match s.convert r with
  | .ok row => (.ok row, { s with rows := s.rows + 1 })
  | .error e => (.error e, s)

end Session

end RecordRows
