import RecordRows.Proofs.Session.Conversion
/-! What the slots of a row hold: nothing, or what the type of the column asks for. Columns of maps
and of structs take what the record declares for the field. -/

namespace RecordRows

inductive Content where
  | boolean | int | long | float | double | decimal | string | binary | date | timestamp
  | list | map | struct
  deriving DecidableEq, Repr

def Cell.content? : Cell → Option Content
  | absent => none
  | boolean _ => some .boolean
  | int _ => some .int
  | long _ => some .long
  | float _ => some .float
  | double _ => some .double
  | decimal _ => some .decimal
  | string _ => some .string
  | binary _ => some .binary
  | date _ => some .date
  | timestamp _ => some .timestamp
  | list _ => some .list
  | map _ => some .map
  | struct _ => some .struct

def Primitive.content? (mode : DecimalMode) : Primitive → Option Content
  | tinyint | smallint | int => some .int
  | bigint => some .long
  | boolean => some .boolean
  | float => some .float
  | double => some .double
  | string | varchar _ | char _ => some .string
  | binary => some .binary
  | date => some .date
  | timestamp => some .timestamp
  | decimal _ _ =>
    match mode with
    | .double => some .double
    | .exact => some .decimal
  | void | timestampLocal | intervalYearMonth | intervalDayTime => none

def ColumnType.content? (mode : DecimalMode) : ColumnType → Option Content
  | primitive p => p.content? mode
  | array _ => some .list
  | map _ _ => some .map
  | struct _ => some .struct
  | union _ => none

def DataType.content : DataType → Content
  | boolean => .boolean
  | byte | short | int => .int
  | long => .long
  | float => .float
  | double => .double
  | decimal _ _ => .decimal
  | string | char => .string
  | date _ => .date
  | timestamp _ => .timestamp
  | array _ => .list
  | map _ => .map
  | record _ => .struct

/-- What a column holds of a field: for maps and structs what the field is declared as. -/
def ColumnType.contentOf (mode : DecimalMode) (field : Field DataType) : ColumnType → Option Content
  | map _ _ | struct _ => some field.type.content
  | type => type.content? mode

def Cell.Contains (cell : Cell) (content : Option Content) : Prop :=
  cell = absent ∨ cell.content? = content

namespace Cell

section Coerced

variable {α : Type} {make : α → Cell} {content : Content} {cell : Cell}

theorem contains_ofOption (made : ∀ a, (make a).content? = some content) (result : Option α) :
    (ofOption make result).Contains (some content) := by
  cases result with
  | none => exact .inl rfl
  | some a => exact .inr (made a)

theorem contains_ofCoerced (made : ∀ a, (make a).content? = some content) {result : Coerced α}
    (converted : ofCoerced make result = .ok cell) : cell.Contains (some content) := by
  cases result with
  | error e => cases converted
  | ok value =>
    cases converted
    exact contains_ofOption made value

theorem contains_of_map {result : Except ValueError α}
    (made : ∀ a, (make a).content? = some content) (converted : result.map make = .ok cell) :
    cell.Contains (some content) := by
  cases result with
  | error e => cases converted
  | ok value =>
    cases converted
    exact .inr (made value)

end Coerced

theorem contains_ofTyped {v : Value} {type : DataType} {cell : Cell}
    (converted : ofTyped v type = .ok cell) : cell.Contains (some type.content) := by
  cases type with
  | array item =>
    rw [ofTyped] at converted
    split at converted
    · cases converted
      exact .inl rfl
    · cases v with
      | array items => exact contains_of_map (fun _ => rfl) converted
      | _ => cases converted
  | map value =>
    rw [ofTyped] at converted
    split at converted
    · cases converted
      exact .inl rfl
    · cases v with
      | map entries | record entries => exact contains_of_map (fun _ => rfl) converted
      | _ => cases converted
  | record fields =>
    rw [ofTyped] at converted
    split at converted
    · cases converted
      exact .inl rfl
    · cases v with
      | map entries | record entries => exact contains_of_map (fun _ => rfl) converted
      | _ => cases converted
  | _ =>
    rw [ofTyped] at converted
    exact contains_ofCoerced (fun _ => rfl) converted

end Cell

namespace Session

variable {properties : Properties} {source : Schema} {s : Session} {r : Record}
  {field : Field DataType} {cell : Cell}

theorem contains_accessCell {α : Type} {name : String} {coerce : Value → Coerced α}
    {make : α → Cell} {content : Content} (made : ∀ a, (make a).content? = some content)
    (converted : accessCell r name coerce make = .ok cell) : cell.Contains (some content) := by
  rw [accessCell] at converted
  split at converted
  · next result _ =>
    cases converted
    exact Cell.contains_ofOption made result
  · cases converted

theorem contains_exactCell {name : String} {precision scale : Nat}
    (converted : exactCell r name precision scale = .ok cell) : cell.Contains (some .decimal) := by
  rw [exactCell] at converted
  split at converted
  · cases converted
  · cases converted
    exact .inl rfl
  · split at converted
    · cases converted
      exact .inr rfl
    · cases converted

theorem contains_timestampCell (converted : s.timestampCell r field = .ok cell) :
    cell.Contains (some .timestamp) := by
  rw [timestampCell] at converted
  split at converted
  · cases converted
    exact .inl rfl
  · next v _ =>
    cases parsed : s.timestamps.parse v field.type.format with
    | error e =>
      rw [parsed] at converted
      cases converted
    | ok result =>
      rw [parsed] at converted
      cases converted
      exact Cell.contains_ofOption (fun _ => rfl) result

theorem contains_typedCell (converted : typedCell r field = .ok cell) :
    cell.Contains (some field.type.content) := by
  rw [typedCell] at converted
  split at converted
  · cases converted
    exact .inl rfl
  · next v _ =>
    cases typed : Cell.ofTyped v field.type with
    | error e =>
      rw [typed] at converted
      cases converted
    | ok result =>
      rw [typed] at converted
      cases converted
      exact Cell.contains_ofTyped typed

theorem convertField_unsupported {type : ColumnType} (empty : type.content? s.decimalMode = none) :
    s.convertField r field type = .error (.unsupported type) := by
  cases type with
  | union members => rfl
  | primitive p =>
    cases p with
    | void | timestampLocal | intervalYearMonth | intervalDayTime => rfl
    | decimal precision scale =>
      cases mode : s.decimalMode <;> simp [ColumnType.content?, Primitive.content?, mode] at empty
    | _ => cases empty
  | _ => cases empty

theorem contains_convertField {type : ColumnType}
    (converted : s.convertField r field type = .ok cell) :
    cell.Contains (type.contentOf s.decimalMode field) := by
  cases type with
  | array item => exact contains_accessCell (fun _ => rfl) converted
  | map key value | struct members => exact contains_typedCell converted
  | union members => cases converted
  | primitive p =>
    cases p with
    | timestamp => exact contains_timestampCell converted
    | void | timestampLocal | intervalYearMonth | intervalDayTime => cases converted
    | decimal precision scale =>
      simp only [convertField, ColumnType.contentOf, ColumnType.content?, Primitive.content?]
        at converted ⊢
      cases mode : s.decimalMode with
      | double =>
        rw [mode] at converted
        exact contains_accessCell (fun _ => rfl) converted
      | exact =>
        rw [mode] at converted
        exact contains_exactCell converted
    | _ => exact contains_accessCell (fun _ => rfl) converted

/-- What stands in the row of an accepted record is absent, or the last field with that position has
been converted into it. -/
theorem slot_origin (reached : Reachable properties source s) {row : Row}
    (accepted : (s.step r).1 = .ok row) : row.length = s.table.size ∧
      ∀ ordinal column, s.table.columns[ordinal]? = some column →
        ∃ cell, row[ordinal]? = some cell ∧
          (cell = .absent ∨ ∃ field, s.lastAt? r.schema ordinal = some field ∧
            s.convertField r field column.type = .ok cell) := by
  have convertible := convertible_of_accepted (inside_of_resolved reached.resolved) accepted
  obtain ⟨out, stepped, sized, slots⟩ := step_convertible convertible
  rw [stepped] at accepted
  cases accepted
  refine ⟨sized, fun ordinal column present => ?_⟩
  have bound : ordinal < s.table.size := (List.getElem?_eq_some_iff.mp present).1
  obtain ⟨cell, found, held⟩ := slots ordinal bound
  refine ⟨cell, found, ?_⟩
  rw [Holds] at held
  cases last : s.lastAt? r.schema ordinal with
  | none =>
    rw [last] at held
    exact .inl held
  | some field =>
    rw [last] at held
    obtain ⟨-, own, here, converted⟩ := held
    obtain rfl : own = column := Option.some.inj (here.symm.trans present)
    exact .inr ⟨field, rfl, converted⟩

theorem unpositioned_of_unsupported (convertible : s.Convertible r r.schema) {ordinal : Nat}
    {column : Column} (present : s.table.columns[ordinal]? = some column)
    (empty : column.type.content? s.decimalMode = none) :
    ∀ field ∈ r.schema, s.positions.ordinal? field.name ≠ some ordinal := by
  intro field member positioned
  rcases convertible field member ordinal positioned with ⟨cell, -, own, found, converted⟩
  have same : own = column := Option.some.inj (found.symm.trans present)
  rw [same, convertField_unsupported empty] at converted
  cases converted

/-- The row of an accepted record has a slot for each column. The slot is absent, or a field is
positioned there, and the slot holds what the column holds of the last such field. No field is
positioned at a column that holds nothing. -/
theorem slots_contain (reached : Reachable properties source s) {row : Row}
    (accepted : (s.step r).1 = .ok row) :
    row.length = s.table.size ∧
    ∀ ordinal column, s.table.columns[ordinal]? = some column →
      (∃ cell, row[ordinal]? = some cell ∧
        (cell = .absent ∨ ∃ field, s.lastAt? r.schema ordinal = some field ∧
          cell.content? = column.type.contentOf s.decimalMode field)) ∧
      (column.type.content? s.decimalMode = none →
        ∀ field ∈ r.schema, s.positions.ordinal? field.name ≠ some ordinal) := by
  have convertible := convertible_of_accepted (inside_of_resolved reached.resolved) accepted
  obtain ⟨sized, slots⟩ := slot_origin reached accepted
  refine ⟨sized, fun ordinal column present => ?_⟩
  refine ⟨?_, unpositioned_of_unsupported convertible present⟩
  obtain ⟨cell, found, origin⟩ := slots ordinal column present
  refine ⟨cell, found, ?_⟩
  rcases origin with absent | ⟨field, last, converted⟩
  · exact .inl absent
  · exact (contains_convertField converted).imp_right fun content => ⟨field, last, content⟩

def profileProperties : Properties where
  columnNames := ["id", "attrs", "gap"]
  columnTypes :=
    [.primitive .int, .map (.primitive .string) (.primitive .int), .primitive .void]
  timestampFormats := []
  decimalMode := .double

def profile : Record where
  schema := [⟨"ID", .string, true⟩, ⟨"attrs", .record [⟨"x", .int, true⟩], true⟩]
  values := [("ID", .string "7"), ("attrs", .record [("x", .int 1)])]

def profileSession : Session where
  table := ⟨[⟨"id", .primitive .int⟩, ⟨"attrs", .map (.primitive .string) (.primitive .int)⟩,
    ⟨"gap", .primitive .void⟩]⟩
  positions := ⟨[("id", .column 0), ("attrs", .column 1)]⟩
  timestamps := ⟨[]⟩
  decimalMode := .double
  rows := 0

theorem start_profile : start profileProperties profile.schema = .ok profileSession := by
  rfl

theorem step_profile :
    (profileSession.step profile).1 = .ok [.int 7, .struct [("x", .int 1)], .absent] := by
  rfl

theorem slots_contain_profile :
    Reachable profileProperties profile.schema profileSession ∧
    (profileSession.step profile).1 = .ok [.int 7, .struct [("x", .int 1)], .absent] ∧
    ∃ cell, [Cell.int 7, .struct [("x", .int 1)], .absent][1]? = some cell ∧
      (cell = .absent ∨ ∃ field, profileSession.lastAt? profile.schema 1 = some field ∧
        cell.content? = some field.type.content) := by
  have reached := Reachable.start start_profile
  exact ⟨reached, step_profile, ((slots_contain reached step_profile).2 1 _ rfl).1⟩

/-- A column of maps may hold a struct. -/
theorem struct_for_map : ¬ ∀ (properties : Properties) (source : Schema) (s : Session) (r : Record)
    (row : Row), Reachable properties source s → (s.step r).1 = .ok row →
      ∀ (ordinal : Nat) (column : Column) (cell : Cell), s.table.columns[ordinal]? = some column →
        row[ordinal]? = some cell →
          cell = .absent ∨ cell.content? = column.type.content? s.decimalMode := by
  intro claim
  have held := claim profileProperties profile.schema profileSession profile _
    (.start start_profile) step_profile 1 _ _ rfl rfl
  rcases held with absent | same
  · cases absent
  · cases same

end Session

end RecordRows
