import RecordRows.Proofs.Positions.Resolution
import RecordRows.Row.Session
/-! The row of a record: each column holds the cell of the last field that is positioned there, and
the first field that cannot be converted rejects the record. -/

namespace RecordRows.Session

variable {properties : Properties} {source : Schema} {s : Session} {r : Record}

/-- The sessions that conversions of any records lead to after a start. -/
inductive Reachable (properties : Properties) (source : Schema) : Session → Prop
  | start {s : Session} (started : start properties source = .ok s) : Reachable properties source s
  | step {s : Session} (reached : Reachable properties source s) (r : Record) :
      Reachable properties source (s.step r).2

theorem start_eq_ok_iff : start properties source = .ok s ↔
    ∃ t p, Table.ofNames properties.columnNames properties.columnTypes = .ok t ∧
      Positions.resolve t source = .ok p ∧
      ⟨t, p, .ofFormats properties.timestampFormats, properties.decimalMode, 0⟩ = s := by
  rw [start]
  cases Table.ofNames properties.columnNames properties.columnTypes with
  | error => simp [bind, Except.bind]
  | ok t =>
    cases resolved : Positions.resolve t source <;>
      simp [bind, Except.bind, pure, Except.pure, resolved]

theorem start_ok (started : start properties source = .ok s) :
    Positions.resolve s.table source = .ok s.positions ∧ s.rows = 0 := by
  obtain ⟨t, p, -, resolved, rfl⟩ := start_eq_ok_iff.mp started
  exact ⟨resolved, rfl⟩

theorem step_of_ok {row : Row} (converted : s.convert r = .ok row) :
    s.step r = (.ok row, { s with rows := s.rows + 1 }) := by
  rw [step, converted]

theorem step_of_error {e : ConversionError} (rejected : s.convert r = .error e) :
    s.step r = (.error e, s) := by
  rw [step, rejected]

theorem Reachable.resolved (reached : Reachable properties source s) :
    Positions.resolve s.table source = .ok s.positions := by
  induction reached with
  | start started => exact (start_ok started).1
  | @step s reached r ih =>
    cases result : s.convert r with
    | ok row =>
      rw [step_of_ok result]
      exact ih
    | error e =>
      rw [step_of_error result]
      exact ih

def Inside (s : Session) : Prop :=
  ∀ name ordinal, s.positions.ordinal? name = some ordinal → ordinal < s.table.size

theorem inside_of_resolved (resolved : Positions.resolve s.table source = .ok s.positions) :
    s.Inside := by
  intro name ordinal positioned
  rcases Positions.lands_of_ordinal resolved positioned with ⟨field, -, -, lands⟩
  exact lands.lt_size

theorem Inside.exists_column (inside : s.Inside) {name : String} {ordinal : Nat}
    (positioned : s.positions.ordinal? name = some ordinal) :
    ∃ column, s.table.columns[ordinal]? = some column :=
  ⟨_, List.getElem?_eq_getElem (inside name ordinal positioned)⟩

def Converts (s : Session) (r : Record) (field : Field DataType) (ordinal : Nat)
    (result : Except FieldError Cell) : Prop :=
  s.positions.ordinal? field.name = some ordinal ∧
    ∃ column, s.table.columns[ordinal]? = some column ∧ s.convertField r field column.type = result

/-- Every field with a position can be converted. -/
def Convertible (s : Session) (r : Record) (fields : List (Field DataType)) : Prop :=
  ∀ field ∈ fields, ∀ ordinal, s.positions.ordinal? field.name = some ordinal →
    ∃ cell, s.Converts r field ordinal (.ok cell)

/-- The field is the first one that has a position and cannot be converted. -/
def FirstFailure (s : Session) (r : Record) (fields : List (Field DataType))
    (field : Field DataType) (cause : FieldError) : Prop :=
  ∃ before after ordinal, fields = before ++ field :: after ∧ s.Convertible r before ∧
    s.Converts r field ordinal (.error cause)

def lastAt? (s : Session) (fields : List (Field DataType)) (ordinal : Nat) :
    Option (Field DataType) :=
  fields.reverse.find? fun field => s.positions.ordinal? field.name == some ordinal

/-- What a slot that held `old` holds once the fields are converted. -/
def Holds (s : Session) (r : Record) (fields : List (Field DataType)) (ordinal : Nat)
    (old cell : Cell) : Prop :=
  match s.lastAt? fields ordinal with
  | some field => s.Converts r field ordinal (.ok cell)
  | none => cell = old

/-- Conversion in which a missing column and a write past the end of the row have no result. -/
def fill? (s : Session) (r : Record) (row : Row) :
    List (Field DataType) → Option (Except ConversionError Row)
  | [] => some (.ok row)
  | field :: fields =>
    match s.positions.ordinal? field.name with
    | none => fill? s r row fields
    | some ordinal =>
      match s.table.columns[ordinal]? with
      | none => none
      | some column =>
        match s.convertField r field column.type with
        | .ok cell => if ordinal < row.length then fill? s r (row.set ordinal cell) fields else none
        | .error cause => some (.error ⟨r.identity, field.name, cause⟩)

section Fill

variable {field : Field DataType} {fields : List (Field DataType)} {ordinal : Nat} {row : Row}

theorem fill_unpositioned (unpositioned : s.positions.ordinal? field.name = none) :
    s.fill r row (field :: fields) = s.fill r row fields := by
  rw [fill, unpositioned]

theorem fill_converted {cell : Cell} (converts : s.Converts r field ordinal (.ok cell)) :
    s.fill r row (field :: fields) = s.fill r (row.set ordinal cell) fields := by
  rcases converts with ⟨positioned, column, present, converted⟩
  simp only [fill, positioned, present, converted]

theorem fill_failed {cause : FieldError} (converts : s.Converts r field ordinal (.error cause)) :
    s.fill r row (field :: fields) = .error ⟨r.identity, field.name, cause⟩ := by
  rcases converts with ⟨positioned, column, present, failed⟩
  simp only [fill, positioned, present, failed]

theorem lastAt?_cons (field : Field DataType) (fields : List (Field DataType)) (ordinal : Nat) :
    s.lastAt? (field :: fields) ordinal = (s.lastAt? fields ordinal).or
      (if s.positions.ordinal? field.name = some ordinal then some field else none) := by
  rw [lastAt?, List.reverse_cons, List.find?_append, lastAt?, List.find?_singleton]
  simp only [beq_iff_eq]

theorem lastAt?_spec (last : s.lastAt? fields ordinal = some field) :
    field ∈ fields ∧ s.positions.ordinal? field.name = some ordinal := by
  have member := List.mem_of_find?_eq_some last
  have positioned := List.find?_some last
  exact ⟨List.mem_reverse.mp member, by simpa using positioned⟩

theorem exists_lastAt? (member : field ∈ fields)
    (positioned : s.positions.ordinal? field.name = some ordinal) :
    ∃ last, s.lastAt? fields ordinal = some last := by
  cases found : s.lastAt? fields ordinal with
  | some last => exact ⟨last, rfl⟩
  | none =>
    have elsewhere := List.find?_eq_none.mp found field (List.mem_reverse.mpr member)
    exact absurd (beq_iff_eq.mpr positioned) elsewhere

theorem Converts.unique {result other : Except FieldError Cell}
    (first : s.Converts r field ordinal result) (second : s.Converts r field ordinal other) :
    result = other := by
  obtain ⟨-, column, present, converted⟩ := first
  obtain ⟨-, own, again, found⟩ := second
  obtain rfl : column = own := Option.some.inj (present.symm.trans again)
  exact converted.symm.trans found

theorem Holds.cons_of_ne {old cell : Cell}
    (elsewhere : s.positions.ordinal? field.name ≠ some ordinal)
    (held : s.Holds r fields ordinal old cell) : s.Holds r (field :: fields) ordinal old cell := by
  rw [Holds, lastAt?_cons, if_neg elsewhere, Option.or_none]
  exact held

theorem Holds.cons {old cell : Cell} {own : Nat} {first : Cell}
    (converts : s.Converts r field own (.ok first))
    (held : s.Holds r fields ordinal (if own = ordinal then first else old) cell) :
    s.Holds r (field :: fields) ordinal old cell := by
  by_cases here : own = ordinal
  · subst here
    rw [if_pos rfl] at held
    rw [Holds, lastAt?_cons, if_pos converts.1]
    rw [Holds] at held
    -- The cell of the first field stands where no later field is positioned.
    cases last : s.lastAt? fields own with
    | none =>
      rw [last] at held
      rw [held]
      exact converts
    | some later =>
      rw [last] at held
      exact held
  · have elsewhere : s.positions.ordinal? field.name ≠ some ordinal := by
      rw [converts.1]
      exact fun same => here (Option.some.inj same)
    rw [if_neg here] at held
    exact held.cons_of_ne elsewhere

theorem convertible_cons_iff : s.Convertible r (field :: fields) ↔
    (∀ ordinal, s.positions.ordinal? field.name = some ordinal →
      ∃ cell, s.Converts r field ordinal (.ok cell)) ∧ s.Convertible r fields :=
  List.forall_mem_cons

-- Each slot is followed from the content it has before the fields that are left.
theorem fill_convertible (convertible : s.Convertible r fields) (row : Row) :
    ∃ out, s.fill r row fields = .ok out ∧ out.length = row.length ∧
      ∀ ordinal old, row[ordinal]? = some old →
        ∃ cell, out[ordinal]? = some cell ∧ s.Holds r fields ordinal old cell := by
  induction fields generalizing row with
  | nil => exact ⟨row, rfl, rfl, fun ordinal old present => ⟨old, present, rfl⟩⟩
  | cons field fields ih =>
    rcases convertible_cons_iff.mp convertible with ⟨head, rest⟩
    cases positioned : s.positions.ordinal? field.name with
    | none =>
      rcases ih rest row with ⟨out, filled, sized, slots⟩
      refine ⟨out, (fill_unpositioned positioned).trans filled, sized, ?_⟩
      intro ordinal old present
      rcases slots ordinal old present with ⟨cell, found, held⟩
      have elsewhere : s.positions.ordinal? field.name ≠ some ordinal := by
        rw [positioned]
        exact nofun
      exact ⟨cell, found, held.cons_of_ne elsewhere⟩
    | some own =>
      rcases head own positioned with ⟨first, converts⟩
      rcases ih rest (row.set own first) with ⟨out, filled, sized, slots⟩
      refine ⟨out, (fill_converted converts).trans filled, sized.trans List.length_set, ?_⟩
      intro ordinal old present
      have written :
          (row.set own first)[ordinal]? = some (if own = ordinal then first else old) := by
        have bound := (List.getElem?_eq_some_iff.mp present).1
        rw [List.getElem?_set]
        split
        · next here => rw [if_pos (here ▸ bound)]
        · exact present
      rcases slots ordinal _ written with ⟨cell, found, held⟩
      exact ⟨cell, found, held.cons converts⟩

theorem fill_firstFailure {cause : FieldError} (failure : s.FirstFailure r fields field cause)
    (row : Row) : s.fill r row fields = .error ⟨r.identity, field.name, cause⟩ := by
  rcases failure with ⟨before, after, ordinal, rfl, convertible, fails⟩
  induction before generalizing row with
  | nil => exact fill_failed fails
  | cons earlier before ih =>
    rcases convertible_cons_iff.mp convertible with ⟨head, rest⟩
    rw [List.cons_append]
    cases positioned : s.positions.ordinal? earlier.name with
    | none =>
      rw [fill_unpositioned positioned]
      exact ih row rest
    | some own =>
      rcases head own positioned with ⟨cell, converts⟩
      rw [fill_converted converts]
      exact ih _ rest

theorem exists_firstFailure (inside : s.Inside) (stuck : ¬ s.Convertible r fields) :
    ∃ field cause, s.FirstFailure r fields field cause := by
  induction fields with
  | nil => exact absurd nofun stuck
  | cons field fields ih =>
    by_cases first : ∀ ordinal, s.positions.ordinal? field.name = some ordinal →
        ∃ cell, s.Converts r field ordinal (.ok cell)
    · have rest : ¬ s.Convertible r fields :=
        fun convertible => stuck (convertible_cons_iff.mpr ⟨first, convertible⟩)
      rcases ih rest with ⟨failing, cause, before, after, ordinal, parts, convertible, fails⟩
      exact ⟨failing, cause, field :: before, after, ordinal, by rw [parts]; rfl,
        convertible_cons_iff.mpr ⟨first, convertible⟩, fails⟩
    · simp only [not_forall, not_exists] at first
      rcases first with ⟨ordinal, positioned, none⟩
      -- There is a column, so that the conversion itself must have failed.
      rcases inside.exists_column positioned with ⟨column, present⟩
      cases result : s.convertField r field column.type with
      | ok cell => exact absurd ⟨positioned, column, present, result⟩ (none cell)
      | error cause =>
        exact ⟨field, cause, [], fields, ordinal, rfl, nofun, positioned, column, present, result⟩

end Fill

theorem step_convertible (convertible : s.Convertible r r.schema) :
    ∃ row, s.step r = (.ok row, { s with rows := s.rows + 1 }) ∧
      row.length = s.table.size ∧
      ∀ ordinal < s.table.size,
        ∃ cell, row[ordinal]? = some cell ∧ s.Holds r r.schema ordinal .absent cell := by
  rcases fill_convertible convertible (List.replicate s.table.size .absent) with
    ⟨row, filled, sized, slots⟩
  exact ⟨row, step_of_ok filled, sized.trans List.length_replicate,
    fun ordinal inside => slots ordinal .absent (List.getElem?_replicate_of_lt inside)⟩

theorem step_stuck (inside : s.Inside) (stuck : ¬ s.Convertible r r.schema) :
    ∃ field cause, s.FirstFailure r r.schema field cause ∧
      s.step r = (.error ⟨r.identity, field.name, cause⟩, s) := by
  rcases exists_firstFailure inside stuck with ⟨field, cause, failure⟩
  exact ⟨field, cause, failure, step_of_error (fill_firstFailure failure _)⟩

theorem convertible_of_accepted (inside : s.Inside) {row : Row}
    (accepted : (s.step r).1 = .ok row) : s.Convertible r r.schema := by
  by_contra stuck
  rcases step_stuck inside stuck with ⟨field, cause, -, rejected⟩
  rw [rejected] at accepted
  cases accepted

def visitProperties : Properties :=
  ⟨["ID", "Name", "day"], [.primitive .int, .primitive .string, .primitive .date], [], .double⟩

def visitSession : Session where
  table := Positions.visits
  positions :=
    ⟨[("id", .column 0), ("_col0", .unmapped), ("_col2", .column 2), ("other", .unmapped)]⟩
  timestamps := ⟨[]⟩
  decimalMode := .double
  rows := 0

theorem start_visits : start visitProperties Positions.feed = .ok visitSession := by
  rfl

def repeated : Record where
  schema := ["id", "ID", "other", "_col2"].map (⟨·, .int, true⟩)
  values := [("id", .int 7), ("ID", .int 8), ("other", .bool true)]

def refused : Record := { repeated with values := [("id", .int 7), ("ID", .bool true)] }

end RecordRows.Session
