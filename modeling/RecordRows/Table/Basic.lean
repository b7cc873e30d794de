import RecordRows.Table.Properties
/-! Tables: ordered columns with names and types. -/

namespace RecordRows

structure Column where
  name : String
  type : ColumnType

structure Table where
  columns : List Column

namespace Table

def ofNames (names : List String) (types : List ColumnType) : Except ConfigError Table :=
  if names.length = types.length then
    .ok ⟨List.zipWith (fun name type => ⟨Text.lowerCase name, type⟩) names types⟩
  else .error (.columnCount names.length types.length)

def size (t : Table) : Nat := t.columns.length

def positionOf? (t : Table) (name : String) : Option Nat :=
  t.columns.findIdx? (·.name == name)

end Table

end RecordRows
