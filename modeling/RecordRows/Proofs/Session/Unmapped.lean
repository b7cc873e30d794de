import Mathlib.Data.List.Forall2
import RecordRows.Proofs.Session.Absence
import RecordRows.Proofs.Session.Run
/-! Fields without a column: neither what they declare nor what they hold makes a difference to a
row or to the cause of a rejection. -/

namespace RecordRows

theorem Position.ordinal?_eq_none_iff {position : Position} :
    position.ordinal? = none ↔ position = .unmapped := by
  cases position <;> simp [ordinal?]

namespace Session

variable {s : Session} {r other : Record}

def mappedFields (s : Session) (fields : Schema) : Schema :=
  fields.filter fun field => s.positions.position field.name ≠ .unmapped

/-- The records differ only in fields that are unmapped. -/
structure SameMapped (s : Session) (r other : Record) : Prop where
  fields : s.mappedFields other.schema = s.mappedFields r.schema
  values : ∀ field ∈ s.mappedFields r.schema, other.get? field.name = r.get? field.name

section Fill

variable {field : Field DataType} {fields : Schema}

theorem mappedFields_unmapped (unmapped : s.positions.position field.name = .unmapped) :
    s.mappedFields (field :: fields) = s.mappedFields fields :=
  List.filter_cons_of_neg (by simpa using unmapped)

theorem mappedFields_mapped (mapped : s.positions.position field.name ≠ .unmapped) :
    s.mappedFields (field :: fields) = field :: s.mappedFields fields :=
  List.filter_cons_of_pos (by simpa using mapped)

theorem fill_mappedFields (s : Session) (r : Record) (row : Row) (fields : Schema) :
    s.fill r row (s.mappedFields fields) = s.fill r row fields := by
  induction fields generalizing row with
  | nil => rfl
  | cons field fields ih =>
    by_cases unmapped : s.positions.position field.name = .unmapped
    · have unpositioned : s.positions.ordinal? field.name = none :=
        Position.ordinal?_eq_none_iff.mpr unmapped
      rw [mappedFields_unmapped unmapped, fill_unpositioned unpositioned, ih]
    · rw [mappedFields_mapped unmapped]
      simp only [fill, ih]

end Fill

/-- Records that differ only in unmapped fields have one outcome, but for their identities. -/
theorem convert_sameMapped (same : s.SameMapped r other) :
    s.convert other = (s.convert r).mapError (.of other.identity) := by
  have values : ∀ field ∈ s.mappedFields r.schema, s.positions.ordinal? field.name ≠ none →
      other.valueOrNull field.name = r.valueOrNull field.name := by
    intro field member _
    rw [Record.valueOrNull, same.values field member, ← Record.valueOrNull]
  rw [convert, convert, ← fill_mappedFields s other, ← fill_mappedFields s r, same.fields]
  exact fill_alike values _

theorem map_convert_sameMapped {records others : List Record}
    (same : List.Forall₂ s.SameMapped records others) :
    others.map s.convert = List.zipWith (fun other result => result.mapError (.of other.identity))
      others (records.map s.convert) := by
  induction same with
  | nil => rfl
  | cons first _ ih =>
    rw [List.map_cons, List.map_cons, List.zipWith_cons_cons, convert_sameMapped first, ih]

theorem run_sameMapped {records others : List Record}
    (same : List.Forall₂ s.SameMapped records others) :
    (s.run others).1 = List.zipWith (fun other result => result.mapError (.of other.identity))
      others (s.run records).1 ∧
    (s.run others).2 = (s.run records).2 := by
  have counts :
      (others.map s.convert).countP (·.isOk) = (records.map s.convert).countP (·.isOk) := by
    induction same with
    | nil => rfl
    | @cons r other _ _ first _ ih =>
      have accepted : (s.convert other).isOk = (s.convert r).isOk := by
        rw [convert_sameMapped first]
        cases s.convert r <;> rfl
      rw [List.map_cons, List.map_cons, List.countP_cons, List.countP_cons, accepted, ih]
  rw [run_eq, run_eq]
  exact ⟨map_convert_sameMapped same,
    congrArg (fun rows => s.counted (s.rows + .ofNat rows)) counts⟩

/-- Of two records that differ only in unmapped fields both have the same row and are counted, or
both are rejected for the same field and cause and the session stays as it is. -/
theorem step_sameMapped (same : s.SameMapped r other) :
    (∃ row, s.step r = (.ok row, { s with rows := s.rows + 1 }) ∧
      s.step other = (.ok row, { s with rows := s.rows + 1 })) ∨
    ∃ field cause, s.step r = (.error ⟨r.identity, field, cause⟩, s) ∧
      s.step other = (.error ⟨other.identity, field, cause⟩, s) := by
  have converted := convert_sameMapped same
  have own := convert_of_identity s r
  cases result : s.convert r with
  | ok row =>
    rw [result] at converted
    exact .inl ⟨row, step_of_ok result, step_of_ok converted⟩
  | error e =>
    rw [result] at converted own
    exact .inr ⟨e.field, e.cause, step_of_error (result.trans own), step_of_error converted⟩

def scant : Record where
  schema := ["id", "other", "_col2"].map (⟨·, .int, true⟩)
  values := [("id", .int 7), ("_col2", .int (-1))]

def crowded : Record where
  schema := [⟨"_col0", .record [], false⟩, ⟨"id", .int, true⟩, ⟨"_col2", .int, true⟩,
    ⟨"other", .date none, true⟩]
  values := [("_col0", .array [.null]), ("id", .int 7), ("other", .map []), ("_col2", .int (-1))]

theorem step_sameMapped_crowded :
    visitSession.SameMapped scant crowded ∧
    ∃ row, visitSession.step scant = (.ok row, { visitSession with rows := 1 }) ∧
      visitSession.step crowded = (.ok row, { visitSession with rows := 1 }) := by
  have same : visitSession.SameMapped scant crowded := by
    refine ⟨rfl, ?_⟩
    intro field member
    have mapped :
        visitSession.mappedFields scant.schema = ["id", "_col2"].map (⟨·, .int, true⟩) := by rfl
    simp only [mapped, List.map_cons, List.map_nil, List.mem_cons, List.not_mem_nil, or_false]
      at member
    rcases member with rfl | rfl <;> rfl
  let day : Date := ⟨1969, 12, 31, by decide, by decide, by decide, by decide⟩
  have accepted : visitSession.step scant =
      (.ok [.int 7, .absent, .date day], { visitSession with rows := 1 }) := by rfl
  rcases step_sameMapped same with counted | ⟨field, cause, rejected, -⟩
  · exact ⟨same, counted⟩
  · cases accepted.symm.trans rejected

end Session

end RecordRows
