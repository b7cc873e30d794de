import RecordRows.Record.Schema
import RecordRows.Value.Coerce
/-! Cells of a row, and the values that become them. -/

namespace RecordRows

inductive Cell where
  | absent
  | boolean (b : Bool)
  | int (n : Int32)
  | long (n : Int64)
  | float (x : Single)
  | double (x : Double)
  | decimal (d : Decimal)
  | string (s : String)
  | binary (bs : List UInt8)
  | date (d : Date)
  | timestamp (ts : Timestamp)
  | list (items : List Cell)
  | map (entries : List (String × Cell))
  | struct (members : List (String × Cell))

abbrev Row := List Cell

namespace Cell

def ofOption {α : Type} (make : α → Cell) : Option α → Cell
  | none => absent
  | some a => make a

mutual

/-- A value in its own shape. -/
def ofValue : Value → Cell
  | .null => absent
  | .bool b => boolean b
  | .int n => int n
  | .long n => long n
  | .float x => float x
  | .double x => double x
  | .decimal d => decimal d
  | .string s => string s
  | .bytes bs => binary bs
  | .date d => date d
  | .timestamp ts => timestamp ts
  | .array items => list (ofValues items)
  | .map entries => map (ofEntries entries)
  | .record entries => struct (ofEntries entries)

def ofValues : List Value → List Cell
  | [] => []
  | v :: vs => ofValue v :: ofValues vs

def ofEntries : List (String × Value) → List (String × Cell)
  | [] => []
  | (name, v) :: entries => (name, ofValue v) :: ofEntries entries

end

def ofCoerced {α : Type} (make : α → Cell) (result : Coerced α) : Except ValueError Cell :=
  result.map (ofOption make)

def ofItems (convert : Value → Except ValueError Cell) (v : Value) : Except ValueError Cell :=
  match v with
  | .array items => (items.mapM convert).map list
  | v => v.mismatch .array

def ofMap (convert : Value → Except ValueError Cell) (v : Value) : Except ValueError Cell :=
  match v with
  | .map entries | .record entries =>
    (entries.mapM fun entry => (convert entry.2).map (entry.1, ·)).map map
  | v => v.mismatch .map

def ofRecord (convert : List (String × Value) → Except ValueError (List (String × Cell)))
    (v : Value) : Except ValueError Cell :=
  match v with
  | .record entries | .map entries => (convert entries).map struct
  | v => v.mismatch .record

mutual

/-- A value in the shape of a declared type. Null has no cell of any type. A record has a member
for each declared field, from the first entry of its name. -/
def ofTyped (v : Value) : DataType → Except ValueError Cell
  | .boolean => ofCoerced boolean v.toBool
  | .byte | .short | .int => ofCoerced int v.toInt
  | .long => ofCoerced long v.toLong
  | .float => ofCoerced float v.toFloat
  | .double => ofCoerced double v.toDouble
  | .decimal _ _ => ofCoerced decimal v.toDecimal
  | .string | .char => ofCoerced string v.toText
  | .date format => ofCoerced date (v.toDate format)
  | .timestamp format => ofCoerced timestamp (v.toTimestamp format)
  | .array item => if v.isNull then .ok absent else ofItems (fun v => ofTyped v item) v
  | .map value => if v.isNull then .ok absent else ofMap (fun v => ofTyped v value) v
  | .record fields =>
    if v.isNull then .ok absent else ofRecord (fun entries => ofMembers entries fields) v

def ofMembers (entries : List (String × Value)) :
    List (Field DataType) → Except ValueError (List (String × Cell))
  | [] => .ok []
  | ⟨name, type, _⟩ :: fields => do
    let member ← match entries.lookup name with
      | some v => ofTyped v type
      | none => .ok absent
    return (name, member) :: (← ofMembers entries fields)

end

end Cell

end RecordRows
