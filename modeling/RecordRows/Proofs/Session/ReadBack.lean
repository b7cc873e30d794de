import Mathlib.Data.List.Forall2
import RecordRows.Proofs.Json.Cell
import RecordRows.Proofs.Json.Members
import RecordRows.Proofs.Session.Run
/-! Printed rows can be read back: the record of a row's JSON, under the names of the columns, is
converted into the same row. -/

namespace RecordRows

/-- Equal cells, and decimals of one value. -/
inductive Cell.Same : Cell → Cell → Prop
  | refl (cell : Cell) : Same cell cell
  | decimal {d e : Decimal} (value : d.toRat = e.toRat) : Same (.decimal d) (.decimal e)

/-- The cell that the text of a timestamp shows, and any other cell itself. -/
def Cell.shown : Cell → Cell
  | .timestamp ts => .timestamp ts.shown
  | cell => cell

theorem Cell.shown_of_kept {cell : Cell} (kept : ∀ ts, cell = .timestamp ts → ¬ ts.time.Stray) :
    cell.shown = cell := by
  cases cell with
  | timestamp ts => exact congrArg Cell.timestamp (Timestamp.shown_of_kept (kept ts rfl))
  | _ => rfl

/-- Columns whose cells are printed without loss. -/
def ColumnType.Faithful (mode : DecimalMode) : ColumnType → Prop
  | primitive p =>
    match p with
    | .tinyint | .smallint | .int | .bigint | .boolean | .string | .varchar _ | .char _ |
      .binary | .date
    | .timestamp => True
    | .decimal _ _ => mode = .exact
    | _ => False
  | _ => False

/-- The record of the object that has, under each name, the element of a row's JSON in its place. -/
def Row.record (names : List String) (row : Row) : Record :=
  .ofMembers (JsonValue.sortMembers (names.zip (Cell.itemsToJson row)))

section Printed

variable {names : List String} {row : Row} {i : Nat} {name : String} {cell : Cell}

theorem Row.mem_zip {v : JsonValue} : (name, v) ∈ names.zip (Cell.itemsToJson row) ↔
    ∃ (i : Nat) (cell : Cell), names[i]? = some name ∧ row[i]? = some cell ∧ v = cell.toJson := by
  rw [Cell.itemsToJson_eq, List.mem_iff_getElem?]
  constructor
  · rintro ⟨i, found⟩
    obtain ⟨named, printed⟩ := List.getElem?_zip_eq_some.mp found
    rw [List.getElem?_map, Option.map_eq_some_iff] at printed
    obtain ⟨cell, stands, same⟩ := printed
    exact ⟨i, cell, named, stands, same.symm⟩
  · rintro ⟨i, cell, named, stands, rfl⟩
    refine ⟨i, List.getElem?_zip_eq_some.mpr ⟨named, ?_⟩⟩
    rw [List.getElem?_map, stands, Option.map_some]

theorem Row.keys_zip (sized : names.length = row.length) :
    (names.zip (Cell.itemsToJson row)).map Prod.fst = names := by
  apply List.map_fst_zip
  rw [Cell.itemsToJson_eq, List.length_map, sized]

theorem Row.mem_schema (distinct : names.Nodup) (sized : names.length = row.length)
    {field : Field DataType} : field ∈ (record names row).schema ↔
      ∃ (i : Nat) (name : String) (cell : Cell), names[i]? = some name ∧ row[i]? = some cell ∧
        field = ⟨name, cell.toJson.inferType, true⟩ := by
  have sorted := JsonValue.sortMembers_perm ((keys_zip sized).symm ▸ distinct)
  have fields : (record names row).schema =
      JsonValue.inferFields (JsonValue.sortMembers (names.zip (Cell.itemsToJson row))) := rfl
  rw [fields, JsonValue.inferFields_eq, List.mem_map]
  constructor
  · rintro ⟨⟨name, v⟩, member, rfl⟩
    obtain ⟨i, cell, named, stands, rfl⟩ := mem_zip.mp (sorted.mem_iff.mp member)
    exact ⟨i, name, cell, named, stands, rfl⟩
  · rintro ⟨i, name, cell, named, stands, rfl⟩
    exact ⟨(name, cell.toJson), sorted.mem_iff.mpr (mem_zip.mpr ⟨i, cell, named, stands, rfl⟩), rfl⟩

theorem Row.get?_record (distinct : names.Nodup) (sized : names.length = row.length)
    (named : names[i]? = some name) (stands : row[i]? = some cell) :
    (record names row).get? name = some cell.toJson.toValue := by
  have once : ((names.zip (Cell.itemsToJson row)).map Prod.fst).Nodup :=
    (keys_zip sized).symm ▸ distinct
  have sorted := JsonValue.sortMembers_perm once
  apply JsonValue.get?_ofMembers ((sorted.map Prod.fst).nodup_iff.mpr once)
  exact sorted.mem_iff.mpr (mem_zip.mpr ⟨i, cell, named, stands, rfl⟩)

end Printed

namespace Session

variable {properties : Properties} {source : Schema} {s again : Session} {r printed : Record}
  {field : Field DataType} {name : String} {type : ColumnType} {cell : Cell}

theorem accessCell_null {α : Type} {coerce : Value → Coerced α} {make : α → Cell}
    (found : printed.get? name = some .null) (empty : coerce .null = .ok none) :
    accessCell printed name coerce make = .ok .absent := by
  simp only [accessCell, Record.access, found, empty, Cell.ofOption]

theorem accessCell_some {α : Type} {coerce : Value → Coerced α} {make : α → Cell}
    {v : Value} {a : α} (found : printed.get? name = some v) (coerced : coerce v = .ok (some a)) :
    accessCell printed name coerce make = .ok (make a) := by
  simp only [accessCell, Record.access, found, coerced, Cell.ofOption]

theorem exactCell_some {v : Value} {d fitted : Decimal} {precision scale : Nat}
    (found : printed.get? name = some v) (coerced : v.toDecimal = .ok (some d))
    (fits : d.fit? precision scale = some fitted) :
    exactCell printed name precision scale = .ok (.decimal fitted) := by
  simp only [exactCell, Record.access, found, coerced, fits]

theorem timestampCell_some {v : Value} {ts : Timestamp} (found : printed.get? field.name = some v)
    (coerced : v.toTimestamp field.type.format = .ok (some ts)) :
    again.timestampCell printed field = .ok (.timestamp ts) := by
  simp only [timestampCell, TimestampParser.parse, found, coerced, Except.map, Cell.ofOption]

theorem fitted_of_exactCell {precision scale : Nat} {d : Decimal}
    (converted : exactCell r name precision scale = .ok (.decimal d)) :
    ∃ e : Decimal, e.fit? precision scale = some d := by
  rw [exactCell] at converted
  split at converted
  · cases converted
  · cases converted
  · next e _ =>
    split at converted
    · next fitted fits =>
      cases converted
      exact ⟨e, fits⟩
    · cases converted

theorem convertField_null (faithful : type.Faithful s.decimalMode)
    (found : printed.get? field.name = some .null) :
    s.convertField printed field type = .ok .absent := by
  cases type with
  | primitive p =>
    cases p with
    | timestamp =>
      simp [convertField, timestampCell, found, TimestampParser.parse, Value.toTimestamp,
        Except.map, Cell.ofOption]
    | decimal precision scale =>
      have mode : s.decimalMode = .exact := faithful
      simp [convertField, mode, exactCell, Record.access, found, Value.toDecimal]
    | void | float | double | timestampLocal | intervalYearMonth | intervalDayTime => cases faithful
    | _ => exact accessCell_null found rfl
  | array | map | struct | union => cases faithful

/-- The JSON of a converted cell is converted into what it shows by any session of the same mode. -/
theorem convertField_toJson (faithful : type.Faithful s.decimalMode)
    (mode : again.decimalMode = s.decimalMode) (converted : s.convertField r field type = .ok cell)
    (found : printed.get? name = some cell.toJson.toValue) :
    ∃ other, again.convertField printed ⟨name, cell.toJson.inferType, true⟩ type = .ok other ∧
      cell.shown.Same other := by
  rcases contains_convertField converted with absent | content
  · subst absent
    exact ⟨.absent, convertField_null (mode ▸ faithful) found, .refl _⟩
  cases type with
  | array | map | struct | union => cases faithful
  | primitive p =>
    cases p with
    | void | float | double | timestampLocal | intervalYearMonth | intervalDayTime => cases faithful
    | tinyint | smallint | int =>
      cases cell with
      | int n => exact ⟨.int n, accessCell_some found (integerValue_toInt n), .refl _⟩
      | _ => cases content
    | bigint =>
      cases cell with
      | long n => exact ⟨.long n, accessCell_some found (integerValue_toLong_self n), .refl _⟩
      | _ => cases content
    | boolean =>
      cases cell with
      | boolean b => exact ⟨.boolean b, accessCell_some found rfl, .refl _⟩
      | _ => cases content
    | string | varchar | char =>
      cases cell with
      | string text => exact ⟨.string text, accessCell_some found rfl, .refl _⟩
      | _ => cases content
    | binary =>
      cases cell with
      | binary bs => exact ⟨.binary bs, accessCell_some found (Cell.toBytes_toJson bs), .refl _⟩
      | _ => cases content
    | date =>
      cases cell with
      | date d => exact ⟨.date d, accessCell_some found (Value.toDate_text d), .refl _⟩
      | _ => cases content
    | timestamp =>
      cases cell with
      | timestamp ts =>
        exact ⟨.timestamp ts.shown, timestampCell_some found (Value.toTimestamp_text ts), .refl _⟩
      | _ => cases content
    | decimal precision scale =>
      have exact : s.decimalMode = .exact := faithful
      simp only [convertField, ColumnType.contentOf, ColumnType.content?, Primitive.content?,
        mode, exact] at converted content ⊢
      cases cell with
      | decimal d =>
        obtain ⟨e, fits⟩ := fitted_of_exactCell converted
        exact ⟨.decimal d.unsigned,
          exactCell_some found d.toDecimal_text (Decimal.fit?_fitted fits),
          .decimal d.toRat_unsigned.symm⟩
      | _ => cases content

theorem Reachable.configured (reached : Reachable properties source s) :
    Table.ofNames properties.columnNames properties.columnTypes = .ok s.table ∧
      s.decimalMode = properties.decimalMode := by
  induction reached with
  | start started =>
    obtain ⟨t, p, named, -, rfl⟩ := start_eq_ok_iff.mp started
    exact ⟨named, rfl⟩
  | step reached r ih =>
    rw [step_snd]
    exact ih

theorem exists_start (reached : Reachable properties source s) {other : Schema}
    (known : ∀ name ∈ other.names, Text.lowerCase name ∈ s.table.columnNames) :
    ∃ again, start properties other = .ok again ∧ again.table = s.table ∧
      again.decimalMode = s.decimalMode ∧
      Positions.resolve s.table other = .ok again.positions := by
  obtain ⟨named, mode⟩ := reached.configured
  obtain ⟨p, resolved⟩ := Positions.exists_resolve known
  exact ⟨_, start_eq_ok_iff.mpr ⟨s.table, p, named, resolved, rfl⟩, rfl, mode.symm, resolved⟩

/-- The columns have different names and print their cells without loss; these are their names, in
any case. -/
structure Printable (s : Session) (names : List String) : Prop where
  distinct : s.table.columnNames.Nodup
  faithful : ∀ column ∈ s.table.columns, column.type.Faithful s.decimalMode
  named : names.map Text.lowerCase = s.table.columnNames

namespace Printable

variable {names : List String} {row : Row}

theorem nodup (printable : s.Printable names) : names.Nodup :=
  List.Nodup.of_map Text.lowerCase (printable.named ▸ printable.distinct)

theorem length_eq (printable : s.Printable names) (sized : row.length = s.table.size) :
    names.length = row.length := by
  rw [sized, ← List.length_map Text.lowerCase, printable.named, Table.length_columnNames]

theorem columnName (printable : s.Printable names) {i : Nat} (named : names[i]? = some name) :
    s.table.columnNames[i]? = some (Text.lowerCase name) := by
  rw [← printable.named, List.getElem?_map, named, Option.map_some]

theorem mem_columnNames (printable : s.Printable names) (sized : row.length = s.table.size) :
    ∀ name ∈ (Row.record names row).schema.names, Text.lowerCase name ∈ s.table.columnNames := by
  intro name member
  obtain ⟨field, listed, rfl⟩ := List.mem_map.mp member
  obtain ⟨i, own, cell, named, -, rfl⟩ :=
    (Row.mem_schema printable.nodup (printable.length_eq sized)).mp listed
  exact List.mem_of_getElem? (printable.columnName named)

end Printable

section Again

variable {names : List String} {row : Row}

theorem field_read_back (reached : Reachable properties source s) (printable : s.Printable names)
    (accepted : (s.step r).1 = .ok row) (table : again.table = s.table)
    (mode : again.decimalMode = s.decimalMode)
    (resolved : Positions.resolve s.table (Row.record names row).schema = .ok again.positions)
    {i : Nat} (named : names[i]? = some name) (stands : row[i]? = some cell) :
    ∃ other, again.Converts (Row.record names row) ⟨name, cell.toJson.inferType, true⟩ i
      (.ok other) ∧ cell.shown.Same other := by
  obtain ⟨sized, slots⟩ := slot_origin reached accepted
  have equal := printable.length_eq sized
  have member := (Row.mem_schema printable.nodup equal).mpr ⟨i, name, cell, named, stands, rfl⟩
  have listed : name ∈ (Row.record names row).schema.names := List.mem_map.mpr ⟨_, member, rfl⟩
  have positioned : again.positions.ordinal? name = some i :=
    Positions.ordinal?_of_column resolved printable.distinct listed (printable.columnName named)
  have bound : i < row.length := (List.getElem?_eq_some_iff.mp stands).1
  have inside : i < s.table.columns.length := Nat.lt_of_lt_of_eq bound sized
  obtain ⟨column, present⟩ : ∃ column, s.table.columns[i]? = some column :=
    ⟨_, List.getElem?_eq_getElem inside⟩
  have faithful := printable.faithful column (List.mem_of_getElem? present)
  have found := Row.get?_record printable.nodup equal named stands
  have back : ∃ other, again.convertField (Row.record names row) ⟨name, cell.toJson.inferType, true⟩
      column.type = .ok other ∧ cell.shown.Same other := by
    obtain ⟨own, here, origin⟩ := slots i column present
    obtain rfl : own = cell := Option.some.inj (here.symm.trans stands)
    rcases origin with absent | ⟨field, -, converted⟩
    · subst absent
      exact ⟨.absent, convertField_null (mode ▸ faithful) found, .refl _⟩
    · exact convertField_toJson faithful mode converted found
  obtain ⟨other, converted, same⟩ := back
  rw [← table] at present
  exact ⟨other, ⟨positioned, column, present, converted⟩, same⟩

theorem convertible_again (reached : Reachable properties source s) (printable : s.Printable names)
    (accepted : (s.step r).1 = .ok row) (table : again.table = s.table)
    (mode : again.decimalMode = s.decimalMode)
    (resolved : Positions.resolve s.table (Row.record names row).schema = .ok again.positions) :
    again.Convertible (Row.record names row) (Row.record names row).schema := by
  have sized := (slot_origin reached accepted).1
  intro field member ordinal positioned
  obtain ⟨i, name, cell, named, stands, rfl⟩ :=
    (Row.mem_schema printable.nodup (printable.length_eq sized)).mp member
  obtain ⟨other, converts, -⟩ :=
    field_read_back reached printable accepted table mode resolved named stands
  obtain rfl : i = ordinal := Option.some.inj (converts.1.symm.trans positioned)
  exact ⟨other, converts⟩

theorem slot_read_back (reached : Reachable properties source s) (printable : s.Printable names)
    (accepted : (s.step r).1 = .ok row) (table : again.table = s.table)
    (mode : again.decimalMode = s.decimalMode)
    (resolved : Positions.resolve s.table (Row.record names row).schema = .ok again.positions)
    {i : Nat} (stands : row[i]? = some cell) {slot : Cell}
    (held : again.Holds (Row.record names row) (Row.record names row).schema i .absent slot) :
    cell.shown.Same slot := by
  have equal := printable.length_eq (slot_origin reached accepted).1
  have back {i : Nat} {name : String} {cell : Cell} (named : names[i]? = some name)
      (stands : row[i]? = some cell) :=
    field_read_back reached printable accepted table mode resolved named stands
  have inside : i < names.length :=
    Nat.lt_of_lt_of_eq (List.getElem?_eq_some_iff.mp stands).1 equal.symm
  have named : names[i]? = some names[i] := List.getElem?_eq_getElem inside
  have member := (Row.mem_schema printable.nodup equal).mpr ⟨i, _, _, named, stands, rfl⟩
  obtain ⟨_, own, -⟩ := back named stands
  -- The slot is that of the last field there, which is this one again.
  obtain ⟨field, last⟩ := exists_lastAt? member own.1
  obtain ⟨listed, positioned⟩ := lastAt?_spec last
  obtain ⟨j, name, copy, there, here, rfl⟩ := (Row.mem_schema printable.nodup equal).mp listed
  obtain ⟨other, converts, same⟩ := back there here
  obtain rfl : j = i := Option.some.inj (converts.1.symm.trans positioned)
  obtain rfl : copy = cell := Option.some.inj (here.symm.trans stands)
  rw [Holds, last] at held
  obtain rfl : other = slot := Except.ok.inj (converts.unique held)
  exact same

theorem exists_read_back (reached : Reachable properties source s) (printable : s.Printable names)
    (accepted : (s.step r).1 = .ok row) :
    ∃ again other, start properties (Row.record names row).schema = .ok again ∧
      again.table = s.table ∧ (again.step (Row.record names row)).1 = .ok other ∧
      List.Forall₂ Cell.Same (row.map Cell.shown) other := by
  have sized := (slot_origin reached accepted).1
  obtain ⟨again, started, table, mode, resolved⟩ :=
    exists_start reached (printable.mem_columnNames sized)
  obtain ⟨other, stepped, length, slots⟩ :=
    step_convertible (convertible_again reached printable accepted table mode resolved)
  rw [table] at length slots
  refine ⟨again, other, started, table, by rw [stepped], ?_⟩
  apply List.forall₂_map_left_iff.mpr
  apply List.forall₂_iff_get.mpr
  refine ⟨sized.trans length.symm, fun i inside bound => ?_⟩
  obtain ⟨slot, found, held⟩ := slots i (length ▸ bound)
  have stands : row[i]? = some row[i] := List.getElem?_eq_getElem inside
  have same := slot_read_back reached printable accepted table mode resolved stands held
  obtain rfl : other[i] = slot :=
    Option.some.inj ((List.getElem?_eq_getElem bound).symm.trans found)
  exact same

/-- Let the columns have different names in lower case and types whose cells are printed without
loss: then each row can be read back from its JSON. The record that has, under the name of each
column in any case, the element of the row in its place is resolved for the same table, and is
converted into the same row. But a leap second that is not the last second of a minute is printed as
the second after it, and comes back as that. -/
theorem row_read_back (reached : Reachable properties source s) (printable : s.Printable names)
    (accepted : (s.step r).1 = .ok row) :
    ∃ again other, start properties (Row.record names row).schema = .ok again ∧
      again.table = s.table ∧ (again.step (Row.record names row)).1 = .ok other ∧
      List.Forall₂ Cell.Same (row.map Cell.shown) other ∧
      ((∀ ts, .timestamp ts ∈ row → ¬ ts.time.Stray) → List.Forall₂ Cell.Same row other) := by
  obtain ⟨again, other, started, table, stepped, same⟩ :=
    exists_read_back reached printable accepted
  refine ⟨again, other, started, table, stepped, same, fun kept => ?_⟩
  have still : row.map Cell.shown = row := by
    conv_rhs => rw [← row.map_id]
    apply List.map_congr_left
    intro cell member
    exact Cell.shown_of_kept fun ts own => kept ts (own ▸ member)
  rwa [still] at same

end Again

def ledgerNames : List String := ["Id", "Total", "Day", "At", "Raw", "Note"]

def ledgerProperties : Properties where
  columnNames := ledgerNames
  columnTypes := [.primitive .bigint, .primitive (.decimal 10 2), .primitive .date,
    .primitive .timestamp, .primitive .binary, .primitive .string]
  timestampFormats := ["millis"]
  decimalMode := .exact

def idesOfMarch : Date := ⟨-43, 3, 15, by decide, by decide, by decide, by decide⟩

def leapSecond : Timestamp where
  date := ⟨2016, 12, 31, by decide, by decide, by decide, by decide⟩
  time := ⟨23, 59, 59, 1500000000, by decide, by decide, by decide, by decide⟩

def owed : Decimal := ⟨true, 12345, 3, by decide, by decide⟩

def entry : Record where
  schema := [⟨"ID", .long, true⟩, ⟨"total", .decimal 10 3, true⟩, ⟨"day", .date none, true⟩,
    ⟨"at", .timestamp none, true⟩, ⟨"_col4", .string, true⟩]
  values := [("ID", .long (-9223372036854775808)), ("total", .decimal owed),
    ("day", .date idesOfMarch), ("at", .timestamp leapSecond), ("_col4", .bytes [0, 255])]

def ledgerSession : Session where
  table := ⟨[⟨"id", .primitive .bigint⟩, ⟨"total", .primitive (.decimal 10 2)⟩,
    ⟨"day", .primitive .date⟩, ⟨"at", .primitive .timestamp⟩, ⟨"raw", .primitive .binary⟩,
    ⟨"note", .primitive .string⟩]⟩
  positions := ⟨[("id", .column 0), ("total", .column 1), ("day", .column 2), ("at", .column 3),
    ("_col4", .column 4)]⟩
  timestamps := ⟨["millis"]⟩
  decimalMode := .exact
  rows := 0

def ledgerRow : Row :=
  [.long (-9223372036854775808), .decimal ⟨true, 1235, 2, by decide, by decide⟩, .date idesOfMarch,
    .timestamp leapSecond, .binary [0, 255], .absent]

theorem row_read_back_ledger :
    Reachable ledgerProperties entry.schema ledgerSession ∧ ledgerSession.Printable ledgerNames ∧
    (ledgerSession.step entry).1 = .ok ledgerRow ∧
    ∃ again other, start ledgerProperties (Row.record ledgerNames ledgerRow).schema = .ok again ∧
      again.table = ledgerSession.table ∧
      (again.step (Row.record ledgerNames ledgerRow)).1 = .ok other ∧
      List.Forall₂ Cell.Same ledgerRow other := by
  have reached : Reachable ledgerProperties entry.schema ledgerSession := .start (by rfl)
  have printable : ledgerSession.Printable ledgerNames := by
    refine ⟨by decide, ?_, by decide +kernel⟩
    simp [ledgerSession, ColumnType.Faithful]
  have accepted : (ledgerSession.step entry).1 = .ok ledgerRow := by rfl
  have kept (ts : Timestamp) (member : .timestamp ts ∈ ledgerRow) : ¬ ts.time.Stray := by
    simp only [ledgerRow, List.mem_cons, reduceCtorEq, Cell.timestamp.injEq, List.not_mem_nil,
      or_false, false_or] at member
    subst member
    decide
  obtain ⟨again, other, started, table, stepped, -, same⟩ :=
    row_read_back reached printable accepted
  exact ⟨reached, printable, accepted, again, other, started, table, stepped, same kept⟩

def clockProperties : Properties where
  columnNames := ["at"]
  columnTypes := [.primitive .timestamp]
  timestampFormats := []
  decimalMode := .double

def clockSession : Session where
  table := ⟨[⟨"at", .primitive .timestamp⟩]⟩
  positions := ⟨[("at", .column 0)]⟩
  timestamps := ⟨[]⟩
  decimalMode := .double
  rows := 0

def tick : Record := ⟨[⟨"at", .timestamp none, true⟩], [("at", .timestamp .earlyLeap)]⟩

/-- It comes back as a time in the next second. -/
theorem row_read_back_next :
    ¬∀ (properties : Properties) (source : Schema) (s : Session) (r : Record) (names : List String)
      (row : Row), Reachable properties source s → s.Printable names → (s.step r).1 = .ok row →
      ∃ again other, start properties (Row.record names row).schema = .ok again ∧
        (again.step (Row.record names row)).1 = .ok other ∧ List.Forall₂ Cell.Same row other := by
  intro same
  have reached : Reachable clockProperties tick.schema clockSession := .start (by rfl)
  have printable : clockSession.Printable ["at"] := by
    refine ⟨by decide, ?_, by decide +kernel⟩
    simp [clockSession, ColumnType.Faithful]
  have accepted : (clockSession.step tick).1 = .ok [.timestamp .earlyLeap] := by rfl
  obtain ⟨again, other, started, stepped, kept⟩ := same _ _ _ _ _ _ reached printable accepted
  obtain ⟨_, _, own, -, made, next⟩ := exists_read_back reached printable accepted
  cases started.symm.trans own
  cases stepped.symm.trans made
  cases kept with
  | cons first _ =>
    cases next with
    | cons second _ =>
      cases first
      cases second

end Session

end RecordRows
