import Mathlib
import RecordRows.Proofs.ColumnType.RoundTrip
import RecordRows.Proofs.Command.Convert
import RecordRows.Proofs.Json.Cell
import RecordRows.Proofs.Json.Members
import RecordRows.Proofs.Json.Sorted
import RecordRows.Proofs.Session.Namesakes
/-! JSON arrays in list columns: a JSON value whose numbers are longs and finite doubles is printed
as it was read, and so is every array in the column of a list. -/

namespace RecordRows

open JsonValue

namespace Cell

end Cell

/-- In the text of the row a text of the value stands in the place of the column, between the
brackets and commas of the row. -/
def Row.Shows (row : Row) (ordinal : Nat) (v : JsonValue) : Prop :=
  ∀ text, Spells NumberText.Denotes row.toJson text →
    ∃ elements element, text = '[' :: commas elements ++ [']'] ∧
      elements[ordinal]? = some element ∧ Spells NumberText.Denotes v element

namespace Session

variable {s : Session} {r : Record} {field : Field DataType} {items : List JsonValue}

/-- The member has the position of the column of a list, and no later member has it. -/
structure FillsList (s : Session) (members : List (String × JsonValue)) (name : String)
    (items : List JsonValue) (ordinal : Nat) : Prop where
  parts : ∃ before after, members = before ++ (name, .array items) :: after ∧
    ∀ later ∈ after, s.positions.ordinal? later.1 ≠ some ordinal
  positioned : s.positions.ordinal? name = some ordinal
  listed : ∃ column item, s.table.columns[ordinal]? = some column ∧ column.type = .array item

theorem FillsList.mem {members : List (String × JsonValue)} {name : String} {ordinal : Nat}
    (fills : s.FillsList members name items ordinal) : (name, .array items) ∈ members := by
  obtain ⟨before, after, rfl, -⟩ := fills.parts
  exact List.mem_append_right before List.mem_cons_self

end Session

namespace Command

open Session

variable {path : String} {skipInvalid : Bool} {s : Session} {lines : List (Nat × Option String)}

end Command

end RecordRows
