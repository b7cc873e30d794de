import RecordRows.Proofs.Session.Conversion
/-! Fields of one name up to case: they share a column, which no other field has, and the last of
them gives its cell to the row. -/

namespace RecordRows.Session

open Text

variable {t : Table} {source : Schema} {p : Positions} {s : Session} {r : Record}

theorem lastAt?_of_last {before after : List (Field DataType)} {field : Field DataType}
    {ordinal : Nat} (positioned : s.positions.ordinal? field.name = some ordinal)
    (last : ∀ later ∈ after, s.positions.ordinal? later.name ≠ some ordinal) :
    s.lastAt? (before ++ field :: after) ordinal = some field := by
  have behind : after.reverse.find? (fun later => s.positions.ordinal? later.name == some ordinal) =
      none := by
    rw [List.find?_eq_none]
    intro later member
    rw [beq_iff_eq]
    exact last later (List.mem_reverse.mp member)
  rw [lastAt?, List.reverse_append, List.reverse_cons, List.find?_append, List.find?_append, behind,
    Option.none_or, List.find?_singleton, if_pos (beq_iff_eq.mpr positioned), Option.some_or]

theorem cell_of_last (resolved : Positions.resolve s.table source = .ok s.positions) {row : Row}
    (accepted : (s.step r).1 = .ok row) {before after : List (Field DataType)}
    {field : Field DataType} (parts : r.schema = before ++ field :: after) {ordinal : Nat}
    (positioned : s.positions.ordinal? field.name = some ordinal)
    (last : ∀ later ∈ after, s.positions.ordinal? later.name ≠ some ordinal) :
    ∃ cell, s.Converts r field ordinal (.ok cell) ∧ row[ordinal]? = some cell := by
  have inside := inside_of_resolved resolved
  rcases step_convertible (convertible_of_accepted inside accepted) with ⟨out, stepped, -, slots⟩
  rw [stepped] at accepted
  cases accepted
  rcases slots ordinal (inside _ _ positioned) with ⟨cell, found, held⟩
  rw [Holds, parts, lastAt?_of_last positioned last] at held
  exact ⟨cell, held, found⟩

/-- Fields share a column exactly when their names are the same up to case. Of the fields of one
name up to case the last one gives its cell to the row of a record. -/
theorem shared_iff_namesakes (resolved : Positions.resolve t source = .ok p) :
    (∀ name ∈ source.names, ∀ other ∈ source.names, ∀ i j, p.ordinal? name = some i →
      p.ordinal? other = some j → (i = j ↔ lowerCase name = lowerCase other)) ∧
    ∀ s : Session, s.table = t → s.positions = p →
      ∀ r row, r.schema = source → (s.step r).1 = .ok row →
        ∀ before field after, source = before ++ field :: after →
          ∀ ordinal, p.ordinal? field.name = some ordinal →
            (∀ later ∈ after, lowerCase later.name ≠ lowerCase field.name) →
              ∃ cell, s.Converts r field ordinal (.ok cell) ∧ row[ordinal]? = some cell := by
  constructor
  · intro name _ other _ i j first second
    exact Positions.ordinal_eq_iff resolved first second
  · rintro s rfl rfl r row same accepted before field after parts ordinal positioned apart
    apply cell_of_last resolved accepted (same.trans parts) positioned
    intro later member shared
    exact apart later member ((Positions.ordinal_eq_iff resolved shared positioned).mp rfl)

def namesakes : Schema := ["Name", "id", "name"].map (⟨·, .string, true⟩)

def namesakePositions : Positions := ⟨[("name", .column 1), ("id", .column 0)]⟩

theorem resolve_namesakes :
    Positions.resolve Positions.visits namesakes = .ok namesakePositions := by
  rfl

def namesakeSession : Session := { visitSession with positions := namesakePositions }

def named : Record where
  schema := namesakes
  values := [("Name", .string "Ann"), ("id", .int 1), ("name", .string "Bob")]

theorem step_named :
    (namesakeSession.step named).1 = .ok [.int 1, .string "Bob", .absent] := by
  rfl

theorem shared_iff_namesakes_named :
    Positions.resolve Positions.visits namesakes = .ok namesakePositions ∧
    lowerCase "Name" = lowerCase "name" ∧
    ∃ cell, namesakeSession.Converts named ⟨"name", .string, true⟩ 1 (.ok cell) ∧
      [Cell.int 1, .string "Bob", .absent][1]? = some cell := by
  rcases shared_iff_namesakes resolve_namesakes with ⟨shared, stands⟩
  have same : (1 : Nat) = 1 ↔ lowerCase "Name" = lowerCase "name" :=
    shared "Name" (by decide) "name" (by decide) 1 1 rfl rfl
  refine ⟨resolve_namesakes, same.mp rfl, ?_⟩
  exact stands namesakeSession rfl rfl named _ rfl step_named
    (["Name", "id"].map (⟨·, .string, true⟩)) ⟨"name", .string, true⟩ [] rfl 1 rfl nofun

/-- Different names may share a column, so that the later field replaces the cell of the
earlier one. -/
theorem column_shared : ¬ ∀ (t : Table) (source : Schema) (p : Positions),
    Positions.resolve t source = .ok p →
      ∀ name ∈ source.names, ∀ other ∈ source.names, name ≠ other →
      ∀ i j, p.ordinal? name = some i → p.ordinal? other = some j → i ≠ j := by
  intro claim
  have apart := claim Positions.visits namesakes namesakePositions resolve_namesakes
    "Name" (by decide) "name" (by decide) (by decide) 1 1 rfl rfl
  exact apart rfl

end RecordRows.Session
