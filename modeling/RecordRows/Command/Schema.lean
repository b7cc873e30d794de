import RecordRows.Command.Basic
import RecordRows.Record.Outline
/-! The command that shows the schema of the first record and the positions of its fields. -/

namespace RecordRows.Command

def columnLines (columns : List Column) : List String :=
  columns.zipIdx.map fun (column, i) =>
    Text.natText i ++ ": " ++ column.name ++ " " ++ column.type.text

def positionLines (p : Positions) : List String :=
  (p.mapped.map fun (name, ordinal) => name ++ " -> " ++ Text.natText ordinal) ++
    p.unmapped.map fun name => name ++ " -> unmapped"

def schemaText (schema : Schema) (s : Session) : String :=
  "record:\n" ++ schema.outline ++
    joinLines (["table:"] ++ columnLines s.table.columns ++ ["positions:"] ++
      positionLines s.positions)

def firstRecord (path : String) : List (Nat × Option String) → Except Failure Record
  | [] => .error (.noRecords path)
  | (_, none) :: _ => .error .unreadable
  | (_, some text) :: _ => (Record.ofJson text).mapError (.invalidRecord none)

def showSchema (args : TableArguments) (path : String) (content : Option (List UInt8)) :
    Except Failure String := do
  let properties ← args.properties.mapError .config
  let content ← match content with
    | some content => .ok content
    | none => .error (.cannotOpen path)
  let record ← firstRecord path (numberedLines content)
  let s ← (Session.start properties record.schema).mapError .config
  return schemaText record.schema s

/-- The output is made only where nothing fails. -/
def schema (args : TableArguments) (path : String) (content : Option (List UInt8)) : Outcome :=
  match showSchema args path content with
  | .ok text => ⟨some text, none⟩
  | .error failure => ⟨none, some failure⟩

end RecordRows.Command
