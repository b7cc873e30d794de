import RecordRows.Proofs.Session.Contents
import RecordRows.Proofs.Traversal
import RecordRows.Proofs.Value.Null
/-! What a value becomes by a declared type: the cell has the shape of the type at every depth,
each part of it comes from one part of the value, and the first part that cannot be converted gives
the error. -/

namespace RecordRows

namespace Cell

mutual

/-- The cell has the shape of the type at every depth. Any part may be absent. -/
def Conforms (cell : Cell) : DataType → Prop
  | .array item => cell = absent ∨ ∃ cells, cell = list cells ∧ ∀ c ∈ cells, Conforms c item
  | .map value => cell = absent ∨
    ∃ entries, cell = map entries ∧ ∀ entry ∈ entries, Conforms entry.2 value
  | .record fields => cell = absent ∨
    ∃ members, cell = struct members ∧ MembersConform members fields
  | type => cell.Contains (some type.content)

def MembersConform (members : List (String × Cell)) : List (Field DataType) → Prop
  | [] => members = []
  | ⟨name, type, _⟩ :: fields =>
    ∃ member rest, members = (name, member) :: rest ∧ Conforms member type ∧
      MembersConform rest fields

end

end Cell

namespace Value

def entries? : Value → Option (List (String × Value))
  | map entries | record entries => some entries
  | _ => none

def Gives {α : Type} (coerced : Coerced α) (make : α → Cell) (cell : Cell) : Prop :=
  ∃ a, coerced = .ok a ∧ cell = .ofOption make a

mutual

/-- The cell is what the value becomes by the type. -/
def Becomes (v : Value) (cell : Cell) : DataType → Prop
  | .boolean => Gives v.toBool .boolean cell
  | .byte | .short | .int => Gives v.toInt .int cell
  | .long => Gives v.toLong .long cell
  | .float => Gives v.toFloat .float cell
  | .double => Gives v.toDouble .double cell
  | .decimal _ _ => Gives v.toDecimal .decimal cell
  | .string | .char => Gives v.toText .string cell
  | .date format => Gives (v.toDate format) .date cell
  | .timestamp format => Gives (v.toTimestamp format) .timestamp cell
  | .array item =>
    v = null ∧ cell = .absent ∨
    ∃ items cells, v = array items ∧ cell = .list cells ∧
      List.Forall₂ (fun v cell => Becomes v cell item) items cells
  | .map value =>
    v = null ∧ cell = .absent ∨
    ∃ entries cells, v.entries? = some entries ∧ cell = .map cells ∧
      List.Forall₂ (fun entry cell => cell.1 = entry.1 ∧ Becomes entry.2 cell.2 value) entries cells
  | .record fields =>
    v = null ∧ cell = .absent ∨
    ∃ entries members, v.entries? = some entries ∧ cell = .struct members ∧
      MembersBecome entries members fields

/-- Each field in its order has one member, which comes from the first entry of its name or is
absent if there is none. -/
def MembersBecome (entries : List (String × Value)) (members : List (String × Cell)) :
    List (Field DataType) → Prop
  | [] => members = []
  | ⟨name, type, _⟩ :: fields =>
    ∃ member rest, members = (name, member) :: rest ∧
      (match entries.lookup name with
        | some v => Becomes v member type
        | none => member = .absent) ∧
      MembersBecome entries rest fields

end

def items : Value → List Value
  | array items => items
  | _ => []

mutual

/-- The values that the type is asked of, each with its own part of the type: a value comes before
what is inside it, items and entries come in their order, and members in the order of the fields. -/
def nodes (v : Value) : DataType → List (Value × DataType)
  | .array item => (v, .array item) :: v.items.flatMap fun v => nodes v item
  | .map value => (v, .map value) :: (v.entries?.getD []).flatMap fun entry => nodes entry.2 value
  | .record fields => (v, .record fields) :: memberNodes (v.entries?.getD []) fields
  | type => [(v, type)]

def memberNodes (entries : List (String × Value)) : List (Field DataType) → List (Value × DataType)
  | [] => []
  | ⟨name, type, _⟩ :: fields =>
    (match entries.lookup name with
      | some v => nodes v type
      | none => []) ++ memberNodes entries fields

end

/-- The error of the value itself, whatever is inside it. A map and a record serve as each other. -/
def fault? (v : Value) : DataType → Option ValueError
  | .boolean => errorOf v.toBool
  | .byte | .short | .int => errorOf v.toInt
  | .long => errorOf v.toLong
  | .float => errorOf v.toFloat
  | .double => errorOf v.toDouble
  | .decimal _ _ => errorOf v.toDecimal
  | .string | .char => errorOf v.toText
  | .date format => errorOf (v.toDate format)
  | .timestamp format => errorOf (v.toTimestamp format)
  | .array _ =>
    match v with
    | null | array _ => none
    | v => some (.mismatch .array v.kind)
  | .map _ =>
    match v with
    | null | map _ | record _ => none
    | v => some (.mismatch .map v.kind)
  | .record _ =>
    match v with
    | null | map _ | record _ => none
    | v => some (.mismatch .record v.kind)

end Value

namespace Cell

open Value

section Success

variable {v : Value} {cell : Cell}

theorem ofCoerced_eq_ok_iff {α : Type} {make : α → Cell} {result : Coerced α} :
    ofCoerced make result = .ok cell ↔ Gives result make cell := map_eq_ok_iff_exists

theorem ofItems_eq_ok_iff {convert : Value → Except ValueError Cell} :
    ofItems convert v = .ok cell ↔ ∃ items cells, v = .array items ∧ cell = list cells ∧
      List.Forall₂ (fun v cell => convert v = .ok cell) items cells := by
  cases v with
  | array items => simp [ofItems, map_eq_ok_iff_exists, mapM_eq_ok_iff, and_comm]
  | _ => simp [ofItems, mismatch]

theorem ofMap_eq_ok_iff {convert : Value → Except ValueError Cell} :
    ofMap convert v = .ok cell ↔ ∃ entries cells, v.entries? = some entries ∧ cell = map cells ∧
      List.Forall₂ (fun entry cell => cell.1 = entry.1 ∧ convert entry.2 = .ok cell.2)
        entries cells := by
  have entry (entry : String × Value) (cell : String × Cell) :
      (convert entry.2).map (entry.1, ·) = .ok cell ↔
        cell.1 = entry.1 ∧ convert entry.2 = .ok cell.2 := by
    obtain ⟨name, cell⟩ := cell
    cases convert entry.2 <;> simp [Except.map, eq_comm]
  cases v with
  | map entries | record entries =>
    simp [ofMap, map_eq_ok_iff_exists, mapM_eq_ok_iff, and_comm, entries?, entry]
  | _ => simp [ofMap, mismatch, entries?]

theorem ofRecord_eq_ok_iff
    {convert : List (String × Value) → Except ValueError (List (String × Cell))} :
    ofRecord convert v = .ok cell ↔
      ∃ entries members, v.entries? = some entries ∧ cell = struct members ∧
        convert entries = .ok members := by
  cases v with
  | map entries | record entries => simp [ofRecord, map_eq_ok_iff_exists, and_comm, entries?]
  | _ => simp [ofRecord, mismatch, entries?]

theorem unlessNull_eq_ok_iff {result : Except ValueError Cell}
    (refused : v = .null → result ≠ .ok cell) :
    (if v.isNull then .ok absent else result) = .ok cell ↔
      v = .null ∧ cell = absent ∨ result = .ok cell := by
  cases v with
  | null => simp [isNull, eq_comm, refused rfl]
  | _ => simp [isNull]

def ofMember (entries : List (String × Value)) (field : Field DataType) : Except ValueError Cell :=
  match entries.lookup field.name with
  | some v => ofTyped v field.type
  | none => .ok absent

theorem ofMembers_cons (entries : List (String × Value)) (field : Field DataType)
    (fields : List (Field DataType)) : ofMembers entries (field :: fields) =
      (ofMember entries field).bind fun cell =>
        (ofMembers entries fields).bind fun rest => .ok ((field.name, cell) :: rest) := by
  rw [ofMembers, ofMember]
  cases entries.lookup field.name <;> rfl

theorem ofMembers_cons_eq_ok_iff {entries : List (String × Value)} {field : Field DataType}
    {fields : List (Field DataType)} {cells : List (String × Cell)} :
    ofMembers entries (field :: fields) = .ok cells ↔
      ∃ cell rest, ofMember entries field = .ok cell ∧ ofMembers entries fields = .ok rest ∧
        cells = (field.name, cell) :: rest := by
  rw [ofMembers_cons]
  cases ofMember entries field <;> cases ofMembers entries fields <;> simp [Except.bind, eq_comm]

-- Both go by the structure of the type alone: what is inside a value is only ever asked for a
-- part of it.
mutual

theorem ofTyped_eq_ok_iff (v : Value) (cell : Cell) (type : DataType) :
    ofTyped v type = .ok cell ↔ v.Becomes cell type := by
  cases type with
  | array item =>
    rw [ofTyped, Becomes, unlessNull_eq_ok_iff (by rintro rfl; nofun), ofItems_eq_ok_iff]
    simp only [ofTyped_eq_ok_iff _ _ item]
  | map value =>
    rw [ofTyped, Becomes, unlessNull_eq_ok_iff (by rintro rfl; nofun), ofMap_eq_ok_iff]
    simp only [ofTyped_eq_ok_iff _ _ value]
  | record fields =>
    rw [ofTyped, Becomes, unlessNull_eq_ok_iff (by rintro rfl; nofun), ofRecord_eq_ok_iff]
    simp only [ofMembers_eq_ok_iff _ _ fields]
  | _ =>
    rw [ofTyped, Becomes]
    exact ofCoerced_eq_ok_iff

theorem ofMembers_eq_ok_iff (entries : List (String × Value)) (members : List (String × Cell))
    (fields : List (Field DataType)) :
    ofMembers entries fields = .ok members ↔ MembersBecome entries members fields := by
  cases fields with
  | nil => simp [ofMembers, MembersBecome, eq_comm]
  | cons field fields =>
    have member (cell : Cell) : ofMember entries field = .ok cell ↔
        match entries.lookup field.name with
        | some v => v.Becomes cell field.type
        | none => cell = absent := by
      rw [ofMember]
      cases entries.lookup field.name with
      | none => simp [eq_comm]
      | some v => exact ofTyped_eq_ok_iff v cell field.type
    rw [ofMembers_cons_eq_ok_iff, MembersBecome]
    simp only [member, ofMembers_eq_ok_iff _ _ fields]
    constructor
    · rintro ⟨cell, rest, own, others, parts⟩
      exact ⟨cell, rest, parts, own, others⟩
    · rintro ⟨cell, rest, parts, own, others⟩
      exact ⟨cell, rest, own, others, parts⟩

end

theorem Gives.absent_iff {α : Type} {coerced : Coerced α} {make : α → Cell} {content : Content}
    (strict : coerced = .ok none ↔ v = .null) (made : ∀ a, (make a).content? = some content)
    (gives : Gives coerced make cell) : cell = absent ↔ v = .null := by
  obtain ⟨a, result, rfl⟩ := gives
  rw [← strict, result]
  cases a with
  | none => simp [ofOption]
  | some a =>
    have present : make a ≠ absent := by
      intro absent
      have own := made a
      rw [absent] at own
      cases own
    simp [ofOption, present]

theorem absent_iff_of_becomes {type : DataType} (becomes : v.Becomes cell type) :
    cell = absent ↔ v = .null := by
  cases type with
  | boolean => exact Gives.absent_iff toBool_eq_none_iff (fun _ => rfl) becomes
  | byte | short | int => exact Gives.absent_iff toInt_eq_none_iff (fun _ => rfl) becomes
  | long => exact Gives.absent_iff toLong_eq_none_iff (fun _ => rfl) becomes
  | float => exact Gives.absent_iff toFloat_eq_none_iff (fun _ => rfl) becomes
  | double => exact Gives.absent_iff toDouble_eq_none_iff (fun _ => rfl) becomes
  | decimal precision scale => exact Gives.absent_iff toDecimal_eq_none_iff (fun _ => rfl) becomes
  | string | char => exact Gives.absent_iff toText_eq_none_iff (fun _ => rfl) becomes
  | date format => exact Gives.absent_iff toDate_eq_none_iff (fun _ => rfl) becomes
  | timestamp format => exact Gives.absent_iff toTimestamp_eq_none_iff (fun _ => rfl) becomes
  | array item =>
    rw [Becomes] at becomes
    rcases becomes with ⟨rfl, rfl⟩ | ⟨items, cells, rfl, rfl, -⟩ <;> simp
  | map value | record fields =>
    rw [Becomes] at becomes
    rcases becomes with ⟨rfl, rfl⟩ | ⟨entries, cells, inside, rfl, -⟩
    · simp
    · have present : v ≠ .null := by
        rintro rfl
        cases inside
      simp [present]

theorem conforms_absent (type : DataType) : absent.Conforms type := by
  cases type <;> exact .inl rfl

mutual

theorem conforms_of_becomes (v : Value) (cell : Cell) (type : DataType)
    (becomes : v.Becomes cell type) : cell.Conforms type := by
  cases type with
  | array item =>
    rw [Becomes] at becomes
    rw [Conforms]
    rcases becomes with ⟨-, rfl⟩ | ⟨items, cells, -, rfl, each⟩
    · exact .inl rfl
    · refine .inr ⟨cells, rfl, fun cell member => ?_⟩
      obtain ⟨v, own⟩ := exists_of_forall₂ each member
      exact conforms_of_becomes v cell item own
  | map value =>
    rw [Becomes] at becomes
    rw [Conforms]
    rcases becomes with ⟨-, rfl⟩ | ⟨entries, cells, -, rfl, each⟩
    · exact .inl rfl
    · refine .inr ⟨cells, rfl, fun cell member => ?_⟩
      obtain ⟨entry, -, own⟩ := exists_of_forall₂ each member
      exact conforms_of_becomes entry.2 cell.2 value own
  | record fields =>
    rw [Becomes] at becomes
    rw [Conforms]
    rcases becomes with ⟨-, rfl⟩ | ⟨entries, members, -, rfl, each⟩
    · exact .inl rfl
    · exact .inr ⟨members, rfl, membersConform_of_become entries members fields each⟩
  | _ =>
    obtain ⟨a, -, rfl⟩ := becomes
    exact contains_ofOption (fun _ => rfl) a

theorem membersConform_of_become (entries : List (String × Value)) (members : List (String × Cell))
    (fields : List (Field DataType)) (become : MembersBecome entries members fields) :
    MembersConform members fields := by
  cases fields with
  | nil => exact become
  | cons field fields =>
    obtain ⟨member, rest, rfl, own, others⟩ := become
    refine ⟨member, rest, rfl, ?_, membersConform_of_become entries rest fields others⟩
    cases found : entries.lookup field.name with
    | none =>
      simp only [found] at own
      exact own ▸ conforms_absent field.type
    | some v =>
      simp only [found] at own
      exact conforms_of_becomes v member field.type own

end

end Success

section Failure

@[simp] theorem errorOf_ofCoerced {α : Type} (make : α → Cell) (result : Coerced α) :
    errorOf (ofCoerced make result) = errorOf result := errorOf_map _ _

theorem errorOf_ofItems (convert : Value → Except ValueError Cell) (v : Value) (item : DataType) :
    errorOf (if v.isNull then .ok absent else ofItems convert v) =
      (v.fault? (.array item)).or (v.items.findSome? fun v => errorOf (convert v)) := by
  cases v with
  | array items => exact (errorOf_map _ _).trans (errorOf_mapM _ _)
  | _ => rfl

theorem errorOf_ofMap (convert : Value → Except ValueError Cell) (v : Value) (value : DataType) :
    errorOf (if v.isNull then .ok absent else ofMap convert v) =
      (v.fault? (.map value)).or
        ((v.entries?.getD []).findSome? fun entry => errorOf (convert entry.2)) := by
  cases v with
  | map entries | record entries =>
    have each := errorOf_mapM (fun entry => (convert entry.2).map (entry.1, ·)) entries
    simp only [errorOf_map] at each
    exact (errorOf_map _ _).trans each
  | _ => rfl

theorem errorOf_ofRecord
    (convert : List (String × Value) → Except ValueError (List (String × Cell))) (v : Value)
    (fields : List (Field DataType)) :
    errorOf (if v.isNull then .ok absent else ofRecord convert v) =
      (v.fault? (.record fields)).or
        (v.entries?.bind fun entries => errorOf (convert entries)) := by
  cases v with
  | map entries | record entries => exact errorOf_map _ _
  | _ => rfl

theorem memberNodes_nil (fields : List (Field DataType)) : memberNodes [] fields = [] := by
  induction fields with
  | nil => rfl
  | cons field fields ih => rw [memberNodes, ih, List.lookup_nil, List.append_nil]

theorem errorOf_ofMembers_cons (entries : List (String × Value)) (field : Field DataType)
    (fields : List (Field DataType)) : errorOf (ofMembers entries (field :: fields)) =
      (errorOf (ofMember entries field)).or (errorOf (ofMembers entries fields)) := by
  rw [ofMembers_cons]
  cases ofMember entries field <;> cases ofMembers entries fields <;> rfl

mutual

theorem errorOf_ofTyped (v : Value) (type : DataType) :
    errorOf (ofTyped v type) = (v.nodes type).findSome? fun node => node.1.fault? node.2 := by
  cases type with
  | array item =>
    rw [ofTyped, nodes, errorOf_ofItems _ _ item, findSome?_cons_or, findSome?_flatMap]
    simp only [errorOf_ofTyped _ item]
  | map value =>
    rw [ofTyped, nodes, errorOf_ofMap _ _ value, findSome?_cons_or, findSome?_flatMap]
    simp only [errorOf_ofTyped _ value]
  | record fields =>
    rw [ofTyped, nodes, errorOf_ofRecord _ _ fields, findSome?_cons_or]
    cases v.entries? with
    | none => simp [memberNodes_nil]
    | some entries => simp [errorOf_ofMembers entries fields]
  | _ => simp [ofTyped, nodes, fault?]

theorem errorOf_ofMembers (entries : List (String × Value)) (fields : List (Field DataType)) :
    errorOf (ofMembers entries fields) =
      (memberNodes entries fields).findSome? fun node => node.1.fault? node.2 := by
  cases fields with
  | nil => rfl
  | cons field fields =>
    rw [errorOf_ofMembers_cons, memberNodes, List.findSome?_append,
      errorOf_ofMembers entries fields, ofMember]
    cases entries.lookup field.name with
    | none => rfl
    | some v => simp [errorOf_ofTyped v field.type]

end

end Failure

/-- A value has a cell of a type exactly if it becomes one. Only that of null is absent, and each
has the shape of the type at every depth. A value without one has the error of its first part, in
the order in which they are visited, that is not what its part of the type asks for. -/
theorem ofTyped_spec (v : Value) (type : DataType) :
    (∀ cell, ofTyped v type = .ok cell ↔ v.Becomes cell type) ∧
    (∀ cell, ofTyped v type = .ok cell → (cell = absent ↔ v = .null) ∧ cell.Conforms type) ∧
    ∀ e, ofTyped v type = .error e ↔
      (v.nodes type).findSome? (fun node => node.1.fault? node.2) = some e := by
  refine ⟨fun cell => ofTyped_eq_ok_iff v cell type, fun cell converted => ?_, fun e => ?_⟩
  · have becomes := (ofTyped_eq_ok_iff v cell type).mp converted
    exact ⟨absent_iff_of_becomes becomes, conforms_of_becomes v cell type becomes⟩
  · rw [← errorOf_ofTyped, errorOf_eq_some_iff]

def parcelType : DataType :=
  .record [⟨"sizes", .map .long, true⟩, ⟨"tags", .array .string, true⟩, ⟨"note", .char, true⟩]

def parcel : Value :=
  .map [("tags", .array [.string "a", .null, .bool true]),
    ("sizes", .record [("x", .int 1), ("x", .null), ("y", .string "7")]), ("tags", .bool true)]

def torn : Value :=
  .record [("tags", .bool true), ("sizes", .map [("x", .null), ("y", .array [])])]

def parcelCell : Cell :=
  .struct [("sizes", .map [("x", .long 1), ("x", .absent), ("y", .long 7)]),
    ("tags", .list [.string "a", .absent, .string "true"]), ("note", .absent)]

theorem ofTyped_spec_parcel :
    ofTyped parcel parcelType = .ok parcelCell ∧ (parcelCell = absent ↔ parcel = .null) ∧
      parcelCell.Conforms parcelType ∧
      ofTyped torn parcelType = .error (.mismatch .integer .array) := by
  have converted : ofTyped parcel parcelType = .ok parcelCell := by rfl
  have shape := (ofTyped_spec parcel parcelType).2.1 parcelCell converted
  have failed := ((ofTyped_spec torn parcelType).2.2 (.mismatch .integer .array)).mpr (by rfl)
  exact ⟨converted, shape.1, shape.2, failed⟩

end Cell

end RecordRows
