/-! Schemas of self-describing records. -/

namespace RecordRows

structure Field (α : Type) where
  name : String
  type : α
  nullable : Bool

/-- The declared type of a record field. Dates and timestamps may have the format that their texts
are written in. -/
inductive DataType where
  | boolean | byte | short | int | long | float | double
  | decimal (precision scale : Nat)
  | string | char
  | date (format : Option String)
  | timestamp (format : Option String)
  | array (item : DataType)
  | map (value : DataType)
  | record (fields : List (Field DataType))

abbrev Schema := List (Field DataType)

namespace DataType

def isPrimitive : DataType → Bool
  | array _ | map _ | record _ => false
  | _ => true

def format : DataType → Option String
  | date format | timestamp format => format
  | _ => none

def name : DataType → String
  | boolean => "boolean"
  | byte => "byte"
  | short => "short"
  | int => "int"
  | long => "long"
  | float => "float"
  | double => "double"
  | decimal .. => "decimal"
  | string => "string"
  | char => "char"
  | date _ => "date"
  | timestamp _ => "timestamp"
  | array _ => "array"
  | map _ => "map"
  | record _ => "record"

end DataType

namespace Schema

def field? (schema : Schema) (name : String) : Option (Field DataType) :=
  schema.find? (·.name == name)

def names (schema : Schema) : List String := schema.map (·.name)

end Schema

end RecordRows
