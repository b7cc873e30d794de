import Mathlib
import RecordRows.Proofs.Json.Inference
/-! Converting twice by one type is converting once: a cell is the cell of exactly one value, and
the type by which it was made keeps that value. -/

namespace RecordRows

namespace DataType

mutual

/-- No record type, also inside other types, has two fields of one name. -/
def Distinct : DataType → Prop
  | .array item => item.Distinct
  | .map value => value.Distinct
  | .record fields => (Schema.names fields).Nodup ∧ FieldsDistinct fields
  | _ => True

def FieldsDistinct : List (Field DataType) → Prop
  | [] => True
  | ⟨_, type, _⟩ :: fields => type.Distinct ∧ FieldsDistinct fields

end

end DataType

namespace Cell

mutual

def toValue : Cell → Value
  | absent => .null
  | boolean b => .bool b
  | int n => .int n
  | long n => .long n
  | float x => .float x
  | double x => .double x
  | decimal d => .decimal d
  | string s => .string s
  | binary bs => .bytes bs
  | date d => .date d
  | timestamp ts => .timestamp ts
  | list items => .array (itemsToValues items)
  | map entries => .map (entriesToValues entries)
  | struct members => .record (entriesToValues members)

def itemsToValues : List Cell → List Value
  | [] => []
  | cell :: cells => cell.toValue :: itemsToValues cells

def entriesToValues : List (String × Cell) → List (String × Value)
  | [] => []
  | (name, cell) :: entries => (name, cell.toValue) :: entriesToValues entries

end

mutual

theorem ofValue_toValue (cell : Cell) : ofValue cell.toValue = cell := by
  cases cell with
  | list items => rw [toValue, ofValue, ofValues_itemsToValues items]
  | map entries | struct entries => rw [toValue, ofValue, ofEntries_entriesToValues entries]
  | _ => rfl

theorem ofValues_itemsToValues (cells : List Cell) : ofValues (itemsToValues cells) = cells := by
  cases cells with
  | nil => rfl
  | cons cell cells =>
    rw [itemsToValues, ofValues, ofValue_toValue cell, ofValues_itemsToValues cells]

theorem ofEntries_entriesToValues (entries : List (String × Cell)) :
    ofEntries (entriesToValues entries) = entries := by
  cases entries with
  | nil => rfl
  | cons entry entries =>
    rw [entriesToValues, ofEntries, ofValue_toValue entry.2, ofEntries_entriesToValues entries]

end

mutual

theorem toValue_ofValue (v : Value) : (ofValue v).toValue = v := by
  cases v with
  | array items => rw [ofValue, toValue, itemsToValues_ofValues items]
  | map entries | record entries => rw [ofValue, toValue, entriesToValues_ofEntries entries]
  | _ => rfl

theorem itemsToValues_ofValues (vs : List Value) : itemsToValues (ofValues vs) = vs := by
  cases vs with
  | nil => rfl
  | cons v vs => rw [ofValues, itemsToValues, toValue_ofValue v, itemsToValues_ofValues vs]

theorem entriesToValues_ofEntries (entries : List (String × Value)) :
    entriesToValues (ofEntries entries) = entries := by
  cases entries with
  | nil => rfl
  | cons entry entries =>
    rw [ofEntries, entriesToValues, toValue_ofValue entry.2, entriesToValues_ofEntries entries]

end

theorem existsUnique_ofValue (cell : Cell) : ∃! v, ofValue v = cell :=
  ⟨cell.toValue, ofValue_toValue cell, fun v same => by rw [← same, toValue_ofValue]⟩

theorem itemsToValues_eq (cells : List Cell) : itemsToValues cells = cells.map toValue := by
  induction cells with
  | nil => rfl
  | cons cell cells ih => rw [itemsToValues, ih, List.map_cons]

theorem entriesToValues_eq (entries : List (String × Cell)) :
    entriesToValues entries = entries.map fun entry => (entry.1, entry.2.toValue) := by
  induction entries with
  | nil => rfl
  | cons entry entries ih => rw [entriesToValues, ih, List.map_cons]

theorem names_entriesToValues (entries : List (String × Cell)) :
    (entriesToValues entries).map Prod.fst = entries.map Prod.fst := by
  rw [entriesToValues_eq, List.map_map]
  rfl

theorem keeps_map {entries : List (String × Cell)} {value : DataType}
    (each : ∀ entry ∈ entries, value.Keeps entry.2.toValue) :
    (DataType.map value).Keeps (map entries).toValue := by
  have present : (map entries).toValue.isNull = false := rfl
  rw [DataType.Keeps, ofTyped, present, if_neg Bool.false_ne_true, ofValue_toValue]
  apply ofMap_eq_ok_iff.mpr
  refine ⟨entriesToValues entries, entries, rfl, rfl, ?_⟩
  rw [entriesToValues_eq, List.forall₂_map_left_iff, List.forall₂_same]
  intro entry member
  have own := each entry member
  rw [DataType.Keeps, ofValue_toValue] at own
  exact ⟨rfl, own⟩

theorem keeps_of_contains {cell : Cell} {type : DataType} (primitive : type.isPrimitive)
    (contains : cell.Contains (some type.content)) : type.Keeps cell.toValue := by
  rcases contains with rfl | own
  · exact keeps_null type
  · cases type with
    | array | map | record => cases primitive
    | byte | short | int =>
      cases cell with
      | int n => exact keeps_int_iff.mpr rfl
      | _ => cases own
    | _ =>
      cases cell with
      | _ => first
        | rfl
        | cases own

theorem names_of_membersConform {members : List (String × Cell)} {fields : List (Field DataType)}
    (conform : MembersConform members fields) : members.map Prod.fst = Schema.names fields := by
  induction fields generalizing members with
  | nil =>
    rw [MembersConform] at conform
    rw [conform]
    rfl
  | cons field fields ih =>
    obtain ⟨member, rest, rfl, -, others⟩ := conform
    rw [List.map_cons, ih others]
    rfl

mutual

/-- A type keeps each value whose cell has the shape of the type. -/
theorem keeps_of_conforms (cell : Cell) (type : DataType) (distinct : type.Distinct)
    (conforms : cell.Conforms type) : type.Keeps cell.toValue := by
  cases type with
  | array item =>
    rcases conforms with rfl | ⟨cells, rfl, each⟩
    · exact keeps_null _
    · rw [toValue, itemsToValues_eq]
      refine keeps_array_iff.mpr ⟨item, rfl, List.forall_mem_map.mpr fun cell member => ?_⟩
      exact keeps_of_conforms cell item distinct (each cell member)
  | map value =>
    rcases conforms with rfl | ⟨entries, rfl, each⟩
    · exact keeps_null _
    · apply keeps_map
      intro entry member
      exact keeps_of_conforms entry.2 value distinct (each entry member)
  | record fields =>
    rcases conforms with rfl | ⟨members, rfl, conform⟩
    · exact keeps_null _
    · have once : ((entriesToValues members).map Prod.fst).Nodup := by
        rw [names_entriesToValues, names_of_membersConform conform]
        exact distinct.1
      rw [toValue]
      exact (keeps_record_iff once).mpr
        ⟨fields, rfl, fieldsKeep_of_conform members fields distinct.2 conform⟩
  | _ => exact keeps_of_contains rfl conforms

theorem fieldsKeep_of_conform (members : List (String × Cell)) (fields : List (Field DataType))
    (distinct : DataType.FieldsDistinct fields) (conform : MembersConform members fields) :
    List.Forall₂ Field.Keeps fields (entriesToValues members) := by
  cases fields with
  | nil =>
    rw [MembersConform] at conform
    rw [conform]
    exact .nil
  | cons field fields =>
    obtain ⟨member, rest, rfl, own, others⟩ := conform
    have first : field.Keeps (field.name, member.toValue) :=
      ⟨rfl, keeps_of_conforms member field.type distinct.1 own⟩
    exact .cons first (fieldsKeep_of_conform rest fields distinct.2 others)

end

/-- What a value becomes by a type is the cell of exactly one value, and the type converts that
value into the same cell again. -/
theorem ofTyped_again {type : DataType} (distinct : type.Distinct) {v : Value} {cell : Cell}
    (converted : ofTyped v type = .ok cell) :
    (∃! w, ofValue w = cell) ∧ ∀ w, ofValue w = cell → ofTyped w type = .ok cell := by
  refine ⟨existsUnique_ofValue cell, ?_⟩
  rintro w rfl
  have conforms := conforms_of_becomes v _ type ((ofTyped_eq_ok_iff v _ type).mp converted)
  have kept := keeps_of_conforms _ type distinct conforms
  rw [toValue_ofValue] at kept
  exact kept

def visitType : DataType :=
  .map (.record [⟨"day", .date (some "%d.%m.%Y"), true⟩, ⟨"note", .char, true⟩,
    ⟨"size", .long, true⟩])

def visitDay : Date := ⟨2020, 1, 2, by decide, by decide, by decide, by decide⟩

def visit : Value :=
  .record [("a", .record [("size", .string " 7 "), ("day", .string "02.01.2020"),
    ("note", .int 5)]), ("b", .null),
    ("a", .map [("other", .bool true), ("size", .int 8), ("size", .bool true)])]

def visitCell : Cell :=
  .map [("a", .struct [("day", .date visitDay), ("note", .string "5"), ("size", .long 7)]),
    ("b", .absent), ("a", .struct [("day", .absent), ("note", .absent), ("size", .long 8)])]

theorem ofTyped_again_visit : visitType.Distinct ∧ ofTyped visit visitType = .ok visitCell ∧
    (∃! w, ofValue w = visitCell) ∧ ofTyped visitCell.toValue visitType = .ok visitCell := by
  have distinct : visitType.Distinct := by
    simp [visitType, DataType.Distinct, DataType.FieldsDistinct, Schema.names]
  have converted : ofTyped visit visitType = .ok visitCell := by cbv
  have again := ofTyped_again distinct converted
  exact ⟨distinct, converted, again.1, again.2 visitCell.toValue (ofValue_toValue visitCell)⟩

end Cell

end RecordRows
