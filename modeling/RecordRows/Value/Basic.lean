import RecordRows.Binary.Printer
import RecordRows.Calendar.Printer
import RecordRows.Decimal.Basic
/-! The values that self-describing records carry, and their texts. -/

namespace RecordRows

/-- A value of a record field. Maps and records keep the order of their entries. -/
inductive Value where
  | null
  | bool (b : Bool)
  | int (n : Int32)
  | long (n : Int64)
  | float (x : Single)
  | double (x : Double)
  | decimal (d : Decimal)
  | string (s : String)
  | bytes (bs : List UInt8)
  | date (d : Date)
  | timestamp (ts : Timestamp)
  | array (items : List Value)
  | map (entries : List (String × Value))
  | record (entries : List (String × Value))

inductive Kind where
  | null | bool | int | long | float | double | decimal | string | bytes | date | timestamp
  | array | map | record
  deriving DecidableEq, Repr

def Kind.name : Kind → String
  | null => "Null"
  | bool => "Bool"
  | int => "Int"
  | long => "Long"
  | float => "Float"
  | double => "Double"
  | decimal => "Decimal"
  | string => "String"
  | bytes => "Bytes"
  | date => "Date"
  | timestamp => "Timestamp"
  | array => "Array"
  | map => "Map"
  | record => "Record"

namespace Value

def kind : Value → Kind
  | null => .null
  | bool _ => .bool
  | int _ => .int
  | long _ => .long
  | float _ => .float
  | double _ => .double
  | decimal _ => .decimal
  | string _ => .string
  | bytes _ => .bytes
  | date _ => .date
  | timestamp _ => .timestamp
  | array _ => .array
  | map _ => .map
  | record _ => .record

def isNull : Value → Bool
  | null => true
  | _ => false

def isCompound : Value → Bool
  | array _ | map _ | record _ => true
  | _ => false

end Value

def bracketed (opening closing : String) (parts : List String) : String :=
  opening ++ String.intercalate ", " parts ++ closing

mutual

/-- The text of a value. Strings stand without quotation marks. -/
def Value.text : Value → String
  | .null => "null"
  | .bool b => if b then "true" else "false"
  | .int n => Text.intText n.toInt
  | .long n => Text.intText n.toInt
  | .float x => x.text
  | .double x => x.text
  | .decimal d => d.text
  | .string s => s
  | .bytes bs => bracketed "[" "]" (bs.map fun b => Text.natText b.toNat)
  | .date d => d.text
  | .timestamp ts => ts.text
  | .array items => bracketed "[" "]" (Value.texts items)
  | .map entries => bracketed "\x7b" "\x7d" (Value.entryTexts entries)
  | .record entries => bracketed "\x7b" "\x7d" (Value.entryTexts entries)

def Value.texts : List Value → List String
  | [] => []
  | v :: vs => v.text :: Value.texts vs

def Value.entryTexts : List (String × Value) → List String
  | [] => []
  | (name, v) :: entries => (name ++ "=" ++ v.text) :: Value.entryTexts entries

end

end RecordRows
