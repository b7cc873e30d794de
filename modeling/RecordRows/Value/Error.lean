import RecordRows.Value.Basic
import RecordRows.Text.Quoted
/-! Why a value cannot be coerced. -/

namespace RecordRows

inductive Wanted where
  | integer | boolean | floatingPoint | decimal | scalar | byte | bytes | array | map | record
  | date | timestamp
  deriving DecidableEq, Repr

def Wanted.name : Wanted → String
  | integer => "integer"
  | boolean => "boolean"
  | floatingPoint => "floating point"
  | decimal => "decimal"
  | scalar => "scalar"
  | byte => "byte"
  | bytes => "bytes"
  | array => "array"
  | map => "map"
  | record => "record"
  | date => "date"
  | timestamp => "timestamp"

inductive Target where
  | int | long | boolean | double | decimal | byte | date | timestamp
  deriving DecidableEq, Repr

def Target.name : Target → String
  | int => "int"
  | long => "long"
  | boolean => "boolean"
  | double => "double"
  | decimal => "decimal"
  | byte => "byte"
  | date => "date"
  | timestamp => "timestamp"

inductive ValueError where
  | mismatch (wanted : Wanted) (found : Kind)
  | unparseable (input : String) (target : Target)
  | outOfRange (value : String) (target : Target)
  deriving DecidableEq, Repr

def ValueError.message : ValueError → String
  | mismatch wanted found => "expected " ++ wanted.name ++ ", found " ++ found.name
  | unparseable input target => "cannot parse " ++ Text.quote input ++ " as " ++ target.name
  | outOfRange value target => value ++ " is out of range for " ++ target.name

end RecordRows
