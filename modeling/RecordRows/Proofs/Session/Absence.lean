import RecordRows.Proofs.Session.Conversion
/-! Null and a missing value: no cell, error or identity of a record tells them apart. -/

namespace RecordRows

def Record.valueOrNull (r : Record) (name : String) : Value := (r.get? name).getD .null

/-- A field without a value or with null. -/
def Record.Missing (r : Record) (name : String) : Prop :=
  r.get? name = none ∨ r.get? name = some .null

def FieldError.about (name : String) : FieldError → FieldError
  | access e => access { e with field := name }
  | e => e

def ConversionError.of (record : String) (e : ConversionError) : ConversionError :=
  { e with record }

variable {r other : Record}

theorem Record.Missing.valueOrNull {name : String} (missing : r.Missing name) :
    r.valueOrNull name = .null := by
  rcases missing with none | null
  · rw [Record.valueOrNull, none, Option.getD_none]
  · rw [Record.valueOrNull, null, Option.getD_some]

theorem Record.access_eq {α : Type} {coerce : Value → Coerced α} (nothing : coerce .null = .ok none)
    (r : Record) (name : String) :
    r.access name coerce = (coerce (r.valueOrNull name)).mapError (⟨name, ·⟩) := by
  rw [access, valueOrNull]
  cases r.get? name with
  | none => rw [Option.getD_none, nothing, Except.mapError]
  | some v =>
    rw [Option.getD_some]
    cases coerced : coerce v <;> simp only [coerced, Except.mapError]

theorem Record.identity_congr (schema : other.schema = r.schema)
    (same : ∀ field ∈ r.schema, other.valueOrNull field.name = r.valueOrNull field.name) :
    other.identity = r.identity := by
  have text (r : Record) (name : String) :
      ((r.get? name).map Value.text).getD "null" = (r.valueOrNull name).text := by
    rw [valueOrNull]
    cases r.get? name <;> rfl
  have parts : r.schema.map (fun f => f.name ++ "=" ++ (other.valueOrNull f.name).text) =
      r.schema.map fun f => f.name ++ "=" ++ (r.valueOrNull f.name).text :=
    List.map_congr_left fun field member => by rw [same field member]
  simp only [identity, text, schema, parts]

namespace Session

variable {s : Session} {row : Row}

theorem timestampCell_eq (s : Session) (r : Record) (field : Field DataType) :
    s.timestampCell r field =
      (s.timestamps.parse (r.valueOrNull field.name) field.type.format).map
        (Cell.ofOption .timestamp) := by
  rw [timestampCell, Record.valueOrNull]
  cases r.get? field.name <;> rfl

theorem typedCell_eq (r : Record) (field : Field DataType) :
    typedCell r field = (Cell.ofTyped (r.valueOrNull field.name) field.type).mapError .value := by
  have absent : Cell.ofTyped .null field.type = .ok .absent := by cases field.type <;> rfl
  rw [typedCell, Record.valueOrNull]
  cases r.get? field.name with
  | none => rw [Option.getD_none, absent, Except.mapError]
  | some v => rfl

section Alike

variable {field own : Field DataType} (same : other.valueOrNull own.name = r.valueOrNull field.name)
include same

theorem accessCell_alike {α : Type} {coerce : Value → Coerced α} {make : α → Cell}
    (nothing : coerce .null = .ok none) :
    accessCell other own.name coerce make =
      (accessCell r field.name coerce make).mapError (.about own.name) := by
  rw [accessCell, accessCell, Record.access_eq nothing, Record.access_eq nothing, same]
  cases coerce (r.valueOrNull field.name) <;> rfl

theorem exactCell_alike (precision scale : Nat) :
    exactCell other own.name precision scale =
      (exactCell r field.name precision scale).mapError (.about own.name) := by
  rw [exactCell, exactCell, Record.access_eq rfl, Record.access_eq rfl, same]
  cases (r.valueOrNull field.name).toDecimal with
  | error cause => rfl
  | ok result =>
    cases result with
    | none => rfl
    | some d =>
      cases fits : d.fit? precision scale <;> simp [Except.mapError, fits, FieldError.about]

theorem timestampCell_alike (typed : own.type = field.type) :
    s.timestampCell other own = (s.timestampCell r field).mapError (.about own.name) := by
  rw [timestampCell_eq, timestampCell_eq, same, typed, TimestampParser.parse]
  split
  · rfl
  · split <;> rfl
  · rfl

theorem typedCell_alike (typed : own.type = field.type) :
    typedCell other own = (typedCell r field).mapError (.about own.name) := by
  rw [typedCell_eq, typedCell_eq, same, typed]
  cases Cell.ofTyped (r.valueOrNull field.name) field.type <;> rfl

/-- The conversion of a field depends on its declared type and its value only; its name stands in
errors of access. -/
theorem convertField_alike (typed : own.type = field.type) (type : ColumnType) :
    s.convertField other own type = (s.convertField r field type).mapError (.about own.name) := by
  cases type with
  | array => exact accessCell_alike same rfl
  | map | struct => exact typedCell_alike same typed
  | union => rfl
  | primitive p =>
    cases p with
    | void | timestampLocal | intervalYearMonth | intervalDayTime => rfl
    | timestamp => exact timestampCell_alike same typed
    | date =>
      rw [convertField, convertField, typed]
      exact accessCell_alike same rfl
    | decimal precision scale =>
      rw [convertField, convertField]
      split
      · exact accessCell_alike same rfl
      · exact exactCell_alike same precision scale
    | _ => exact accessCell_alike same rfl

end Alike

theorem convertField_congr {field : Field DataType}
    (same : other.valueOrNull field.name = r.valueOrNull field.name) (type : ColumnType) :
    s.convertField other field type = s.convertField r field type := by
  -- An error of the field names the field already.
  have named : s.convertField r field type =
      (s.convertField r field type).mapError (.about field.name) := convertField_alike rfl rfl type
  rw [named]
  exact convertField_alike same rfl type

/-- Records with the same values in the fields that have a position have the same row, or are
rejected for the same field and cause. -/
theorem fill_alike {fields : List (Field DataType)}
    (same : ∀ field ∈ fields, s.positions.ordinal? field.name ≠ none →
      other.valueOrNull field.name = r.valueOrNull field.name) (row : Row) :
    s.fill other row fields = (s.fill r row fields).mapError (.of other.identity) := by
  induction fields generalizing row with
  | nil => rfl
  | cons field fields ih =>
    obtain ⟨own, rest⟩ := List.forall_mem_cons.mp same
    rw [fill, fill]
    cases positioned : s.positions.ordinal? field.name with
    | none => exact ih rest row
    | some ordinal =>
      have value := own (by rw [positioned]; exact Option.some_ne_none ordinal)
      cases present : s.table.columns[ordinal]? with
      | none =>
        simp only [present]
        exact ih rest row
      | some column =>
        simp only [present, convertField_congr value]
        cases s.convertField r field column.type with
        | error cause => rfl
        | ok cell => exact ih rest (row.set ordinal cell)

theorem convert_of_identity (s : Session) (r : Record) :
    s.convert r = (s.convert r).mapError (.of r.identity) :=
  fill_alike (fun _ _ _ => rfl) _

/-- Records of one schema that differ only in which of their missing values are null have the same
row or the same error, and leave the same session. -/
theorem step_null_or_missing (schema : other.schema = r.schema)
    (alike : ∀ field ∈ r.schema, other.get? field.name = r.get? field.name ∨
      other.Missing field.name ∧ r.Missing field.name) :
    s.step other = s.step r := by
  have same : ∀ field ∈ r.schema, other.valueOrNull field.name = r.valueOrNull field.name := by
    intro field member
    rcases alike field member with equal | ⟨missing, gone⟩
    · rw [Record.valueOrNull, equal, ← Record.valueOrNull]
    · rw [missing.valueOrNull, gone.valueOrNull]
  have converted : s.convert other = s.convert r := by
    rw [convert_of_identity s r, ← Record.identity_congr schema same, convert, schema]
    exact fill_alike (fun field member _ => same field member) _
  rw [step, step, converted]

def gapped : Record where
  schema := ["id", "ID", "other", "_col2"].map (⟨·, .int, true⟩)
  values := [("id", .null), ("_col2", .bool true)]

def nulled : Record := { gapped with values :=
  [("ID", .null), ("_col2", .bool true), ("other", .null)] }

theorem step_null_or_missing_gapped :
    nulled.schema = gapped.schema ∧
    (∀ field ∈ gapped.schema, nulled.get? field.name = gapped.get? field.name ∨
      nulled.Missing field.name ∧ gapped.Missing field.name) ∧
    ∃ cause, visitSession.step gapped = (.error ⟨gapped.identity, "_col2", cause⟩, visitSession) ∧
      visitSession.step nulled = (.error ⟨gapped.identity, "_col2", cause⟩, visitSession) := by
  have alike : ∀ field ∈ gapped.schema, nulled.get? field.name = gapped.get? field.name ∨
      nulled.Missing field.name ∧ gapped.Missing field.name := by
    intro field member
    simp only [gapped, List.map_cons, List.map_nil, List.mem_cons, List.not_mem_nil, or_false]
      at member
    rcases member with rfl | rfl | rfl | rfl
    · exact .inr ⟨.inl rfl, .inr rfl⟩
    · exact .inr ⟨.inr rfl, .inl rfl⟩
    · exact .inr ⟨.inr rfl, .inl rfl⟩
    · exact .inl rfl
  have schema : nulled.schema = gapped.schema := rfl
  have rejected : visitSession.step gapped =
      (.error ⟨gapped.identity, "_col2", .access ⟨"_col2", .mismatch .date .bool⟩⟩,
        visitSession) := by
    rfl
  exact ⟨schema, alike, _, rejected, (step_null_or_missing schema alike).trans rejected⟩

end Session

end RecordRows
