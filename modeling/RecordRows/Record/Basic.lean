import RecordRows.Record.Schema
import RecordRows.Value.Coerce
/-! Self-describing records. -/

namespace RecordRows

/-- A declared schema and values by name. Of several values of one name the first one counts. -/
structure Record where
  schema : Schema
  values : List (String × Value)

structure AccessError where
  field : String
  cause : ValueError
  deriving DecidableEq, Repr

def AccessError.message (e : AccessError) : String :=
  "field '" ++ e.field ++ "': " ++ e.cause.message

namespace Record

def ofValues (schema : Schema) (values : List (String × Value)) : Record := ⟨schema, values.reverse⟩

def get? (r : Record) (name : String) : Option Value := r.values.lookup name

def set (r : Record) (name : String) (v : Value) : Record :=
  { r with values := (name, v) :: r.values }

/-- The coerced value of a field; a missing one gives nothing, as null does. -/
def access {α : Type} (r : Record) (name : String) (coerce : Value → Coerced α) :
    Except AccessError (Option α) :=
  match r.get? name with
  | none => .ok none
  | some v =>
    match coerce v with
    | .ok result => .ok result
    | .error cause => .error ⟨name, cause⟩

def identity (r : Record) : String :=
  bracketed "\x7b" "\x7d" (r.schema.map fun f =>
    f.name ++ "=" ++ ((r.get? f.name).map Value.text).getD "null")

end Record

end RecordRows
