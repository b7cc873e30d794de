import Mathlib.Data.List.Nodup
import RecordRows.Proofs.Session.Absence
/-! The row of a record whose names differ in lower case depends neither on the order of its fields
nor on the spelling of their names. -/

namespace RecordRows

open Text

def Field.respell (spelling : String → String) (field : Field DataType) : Field DataType :=
  { field with name := spelling field.name }

/-- The second record has the fields of the first one in some order, under names that are the same
in lower case, and with their values. -/
structure Record.Respells (spelling : String → String) (r other : Record) : Prop where
  schema : other.schema.Perm (r.schema.map (Field.respell spelling))
  folded : ∀ field ∈ r.schema, lowerCase (spelling field.name) = lowerCase field.name
  values : ∀ field ∈ r.schema, other.get? (spelling field.name) = r.get? field.name

theorem Record.Respells.mem_schema {spelling : String → String} {r other : Record}
    (respells : r.Respells spelling other) {own : Field DataType} :
    own ∈ other.schema ↔ ∃ field ∈ r.schema, field.respell spelling = own :=
  respells.schema.mem_iff.trans List.mem_map

theorem Record.Respells.distinct {spelling : String → String} {r other : Record}
    (respells : r.Respells spelling other) (distinct : (r.schema.names.map lowerCase).Nodup) :
    (other.schema.names.map lowerCase).Nodup := by
  have names : (r.schema.map (Field.respell spelling)).map (lowerCase ·.name) =
      r.schema.names.map lowerCase := by
    rw [Schema.names, List.map_map, List.map_map]
    exact List.map_congr_left respells.folded
  rw [← names] at distinct
  rw [Schema.names, List.map_map]
  exact (respells.schema.map _).nodup_iff.mpr distinct

namespace Session

variable {properties : Properties} {source : Schema} {s : Session} {r other : Record} {row : Row}

theorem Holds.unique {fields : List (Field DataType)} {ordinal : Nat} {old cell again : Cell}
    (first : s.Holds r fields ordinal old cell) (second : s.Holds r fields ordinal old again) :
    cell = again := by
  rw [Holds] at first second
  cases last : s.lastAt? fields ordinal with
  | none =>
    rw [last] at first second
    exact first.trans second.symm
  | some field =>
    rw [last] at first second
    exact Except.ok.inj (first.unique second)

theorem accepted_iff (inside : s.Inside) : (s.step r).1 = .ok row ↔
    s.Convertible r r.schema ∧ row.length = s.table.size ∧
      ∀ ordinal < s.table.size,
        ∃ cell, row[ordinal]? = some cell ∧ s.Holds r r.schema ordinal .absent cell := by
  constructor
  · intro accepted
    have convertible := convertible_of_accepted inside accepted
    obtain ⟨out, stepped, sized, slots⟩ := step_convertible convertible
    rw [stepped] at accepted
    cases accepted
    exact ⟨convertible, sized, slots⟩
  · rintro ⟨convertible, sized, slots⟩
    obtain ⟨out, stepped, length, held⟩ := step_convertible convertible
    have same : out = row := by
      apply List.ext_getElem?
      intro ordinal
      by_cases bound : ordinal < s.table.size
      · obtain ⟨cell, found, first⟩ := held ordinal bound
        obtain ⟨again, present, second⟩ := slots ordinal bound
        rw [found, present, first.unique second]
      · rw [List.getElem?_eq_none (by omega), List.getElem?_eq_none (by omega)]
    rw [stepped, same]

def Alone (s : Session) (fields : List (Field DataType)) : Prop :=
  ∀ field ∈ fields, ∀ rival ∈ fields, ∀ ordinal, s.positions.ordinal? field.name = some ordinal →
    s.positions.ordinal? rival.name = some ordinal → field = rival

theorem alone_of_distinct (resolved : Positions.resolve s.table source = .ok s.positions)
    {fields : Schema} (distinct : (fields.names.map lowerCase).Nodup) : s.Alone fields := by
  intro field member rival present ordinal first second
  rw [Schema.names, List.map_map] at distinct
  apply List.inj_on_of_nodup_map distinct member present
  exact (Positions.ordinal_eq_iff resolved first second).mp rfl

theorem holds_iff {fields : List (Field DataType)} (alone : s.Alone fields) {ordinal : Nat}
    {old cell : Cell} : s.Holds r fields ordinal old cell ↔
      (∃ field ∈ fields, s.Converts r field ordinal (.ok cell)) ∨
        (∀ field ∈ fields, s.positions.ordinal? field.name ≠ some ordinal) ∧ cell = old := by
  rw [Holds]
  cases last : s.lastAt? fields ordinal with
  | some field =>
    obtain ⟨member, positioned⟩ := lastAt?_spec last
    constructor
    · intro converts
      exact .inl ⟨field, member, converts⟩
    · rintro (⟨rival, present, converts⟩ | ⟨elsewhere, -⟩)
      · rw [alone field member rival present ordinal positioned converts.1]
        exact converts
      · exact absurd positioned (elsewhere field member)
  | none =>
    have elsewhere : ∀ field ∈ fields, s.positions.ordinal? field.name ≠ some ordinal := by
      intro field member positioned
      obtain ⟨own, found⟩ := exists_lastAt? member positioned
      cases last.symm.trans found
    constructor
    · intro same
      exact .inr ⟨elsewhere, same⟩
    · rintro (⟨field, member, converts⟩ | ⟨-, same⟩)
      · exact absurd converts.1 (elsewhere field member)
      · exact same

theorem converted_alike {field own : Field DataType} {cell : Cell} {type : ColumnType}
    (same : other.get? own.name = r.get? field.name) (typed : own.type = field.type)
    (converted : s.convertField r field type = .ok cell) :
    s.convertField other own type = .ok cell := by
  -- The name of a field is of no account for its cell.
  have value : other.valueOrNull own.name = r.valueOrNull field.name := by
    rw [Record.valueOrNull, same, Record.valueOrNull]
  rw [convertField_alike value typed, converted, Except.mapError]

/-- Each field of the first record stands in the second one, with its position, type and value. -/
def Covers (s : Session) (r other : Record) : Prop :=
  ∀ field ∈ r.schema, ∃ own ∈ other.schema,
    s.positions.ordinal? own.name = s.positions.ordinal? field.name ∧ own.type = field.type ∧
      other.get? own.name = r.get? field.name

theorem accepted_of_covers (inside : s.Inside) (alone : s.Alone r.schema)
    (again : s.Alone other.schema) (covers : s.Covers r other) (back : s.Covers other r)
    (accepted : (s.step r).1 = .ok row) :
    (s.step other).1 = .ok row := by
  rw [accepted_iff inside] at accepted ⊢
  obtain ⟨convertible, sized, slots⟩ := accepted
  refine ⟨?_, sized, ?_⟩
  · intro own member ordinal positioned
    obtain ⟨field, present, same, typed, value⟩ := back own member
    obtain ⟨cell, first, column, found, converted⟩ :=
      convertible field present ordinal (same.trans positioned)
    exact ⟨cell, positioned, column, found, converted_alike value.symm typed.symm converted⟩
  · intro ordinal bound
    obtain ⟨cell, stands, held⟩ := slots ordinal bound
    refine ⟨cell, stands, (holds_iff again).mpr ?_⟩
    rcases (holds_iff alone).mp held with
      ⟨field, member, positioned, column, found, converted⟩ | ⟨elsewhere, absent⟩
    · obtain ⟨own, present, same, typed, value⟩ := covers field member
      have again := converted_alike value typed converted
      exact .inl ⟨own, present, same.trans positioned, column, found, again⟩
    · refine .inr ⟨?_, absent⟩
      intro own member
      obtain ⟨field, present, same, -⟩ := back own member
      rw [← same]
      exact elsewhere field present

/-- A record whose names differ in lower case has the same row as each record with the same fields
in another order and with other spellings of their names, or neither has a row. -/
theorem row_respelled (reached : Reachable properties source s)
    (distinct : (r.schema.names.map lowerCase).Nodup) {spelling : String → String}
    (respells : r.Respells spelling other) (row : Row) :
    (s.step r).1 = .ok row ↔ (s.step other).1 = .ok row := by
  have resolved := reached.resolved
  have inside := inside_of_resolved resolved
  have alone := alone_of_distinct resolved distinct
  have again := alone_of_distinct resolved (respells.distinct distinct)
  have covers : s.Covers r other := by
    intro field member
    have position := Positions.ordinal?_congr resolved (respells.folded field member)
    exact ⟨field.respell spelling, respells.mem_schema.mpr ⟨field, member, rfl⟩, position, rfl,
      respells.values field member⟩
  have back : s.Covers other r := by
    intro own member
    obtain ⟨field, present, rfl⟩ := respells.mem_schema.mp member
    have position := Positions.ordinal?_congr resolved (respells.folded field present)
    exact ⟨field, present, position.symm, rfl, (respells.values field present).symm⟩
  exact ⟨accepted_of_covers inside alone again covers back,
    accepted_of_covers inside again alone back covers⟩

def plainVisit : Record where
  schema := ["id", "other", "_col2"].map (⟨·, .int, true⟩)
  values := [("id", .int 7), ("other", .bool true), ("_col2", .int (-1))]

def shoutedVisit : Record where
  schema := ["_COL2", "other", "ID"].map (⟨·, .int, true⟩)
  values := [("other", .bool true), ("ID", .int 7), ("_COL2", .int (-1))]

def shout (name : String) : String :=
  if name = "id" then "ID" else if name = "_col2" then "_COL2" else name

theorem respells_shouted : plainVisit.Respells shout shoutedVisit where
  schema := by
    have perm : ["_COL2", "other", "ID"].Perm (["id", "other", "_col2"].map shout) := by decide
    exact perm.map fun name => (⟨name, .int, true⟩ : Field DataType)
  folded := by decide +kernel
  values := by
    intro field member
    simp only [plainVisit, List.map_cons, List.map_nil, List.mem_cons, List.not_mem_nil, or_false]
      at member
    rcases member with rfl | rfl | rfl <;> rfl

theorem row_respelled_shouted :
    Reachable visitProperties Positions.feed visitSession ∧
    (plainVisit.schema.names.map lowerCase).Nodup ∧ plainVisit.Respells shout shoutedVisit ∧
    ∃ row, row.length = 3 ∧ (visitSession.step plainVisit).1 = .ok row ∧
      (visitSession.step shoutedVisit).1 = .ok row := by
  have reached := Reachable.start start_visits
  have distinct : (plainVisit.schema.names.map lowerCase).Nodup := by decide +kernel
  let day : Date := ⟨1969, 12, 31, by decide, by decide, by decide, by decide⟩
  have accepted : (visitSession.step plainVisit).1 = .ok [.int 7, .absent, .date day] := by rfl
  exact ⟨reached, distinct, respells_shouted, _, rfl, accepted,
    (row_respelled reached distinct respells_shouted _).mp accepted⟩

end Session

end RecordRows
