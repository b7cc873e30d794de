import RecordRows.Json.Reader
import RecordRows.Record.Basic
/-! Records from JSON objects, with a schema inferred from their values. -/

namespace RecordRows

def integerValue (n : Int) : Value :=
  match int32? n, int64? n with
  | some n, _ => .int n
  | none, some n => .long n
  | none, none => .double (.ofInt .double n)

def integerType (n : Int) : DataType :=
  match int32? n, int64? n with
  | some _, _ => .int
  | none, some _ => .long
  | none, none => .double

namespace JsonValue

mutual

def toValue : JsonValue → Value
  | .null => .null
  | .bool b => .bool b
  | .integer n => integerValue n
  | .double x => .double x
  | .string s => .string s
  | .array items => .array (toValues items)
  | .object members => .record (toEntries members)

def toValues : List JsonValue → List Value
  | [] => []
  | item :: items => toValue item :: toValues items

def toEntries : List (String × JsonValue) → List (String × Value)
  | [] => []
  | (name, v) :: members => (name, toValue v) :: toEntries members

end

mutual

/-- The type of a value. Null is a string, and an array has items of the type of its first one that
is not null. -/
def inferType : JsonValue → DataType
  | .null | .string _ => .string
  | .bool _ => .boolean
  | .integer n => integerType n
  | .double _ => .double
  | .array items => .array (inferItemType items)
  | .object members => .record (inferFields members)

def inferItemType : List JsonValue → DataType
  | [] => .string
  | item :: items => if item.isNull then inferItemType items else inferType item

def inferFields : List (String × JsonValue) → List (Field DataType)
  | [] => []
  | (name, v) :: members => ⟨name, inferType v, true⟩ :: inferFields members

end

end JsonValue

inductive JsonFault where
  | notJson
  | notObject
  deriving DecidableEq, Repr

namespace Record

def ofMembers (members : List (String × JsonValue)) : Record :=
  .ofValues (JsonValue.inferFields members) (JsonValue.toEntries members)

def ofJson (text : String) : Except JsonFault Record :=
  match JsonValue.read? text.toList with
  | none => .error .notJson
  | some (.object members) => .ok (ofMembers members)
  | some _ => .error .notObject

end Record

end RecordRows
