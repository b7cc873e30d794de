import RecordRows.Json.Inference
import RecordRows.Proofs.Json.Notation
import RecordRows.Proofs.Lookup
import RecordRows.Proofs.Row.Typed
import RecordRows.Proofs.Value.Range
/-! The type inferred from a JSON value, and the values that are converted by a type without any
change. -/

namespace RecordRows

/-- Converting by the type gives the value in its own shape. -/
def DataType.Keeps (type : DataType) (v : Value) : Prop :=
  Cell.ofTyped v type = .ok (Cell.ofValue v)

def Field.Keeps (field : Field DataType) (entry : String × Value) : Prop :=
  field.name = entry.1 ∧ field.type.Keeps entry.2

namespace Cell

theorem content_of_keeps {v : Value} {type : DataType} (keeps : type.Keeps v) {kind : Content}
    (own : (ofValue v).content? = some kind) : type.content = kind := by
  rcases contains_ofTyped keeps with absent | same
  · rw [absent] at own
    cases own
  · exact Option.some.inj (same.symm.trans own)

theorem keeps_null (type : DataType) : type.Keeps .null := by
  cases type <;> rfl

theorem keeps_iff_of_kind {v : Value} {kind : Content} (own : (ofValue v).content? = some kind)
    (kept : ∀ type : DataType, type.content = kind → type.Keeps v) {type : DataType} :
    type.Keeps v ↔ type.content = kind :=
  ⟨fun keeps => content_of_keeps keeps own, kept type⟩

theorem keeps_bool_iff {b : Bool} {type : DataType} :
    type.Keeps (.bool b) ↔ type.content = .boolean := by
  apply keeps_iff_of_kind rfl
  intro type kind
  cases type with
  | boolean => rfl
  | _ => cases kind

theorem keeps_string_iff {s : String} {type : DataType} :
    type.Keeps (.string s) ↔ type.content = .string := by
  apply keeps_iff_of_kind rfl
  intro type kind
  cases type with
  | string | char => rfl
  | _ => cases kind

theorem keeps_double_iff {x : Double} {type : DataType} :
    type.Keeps (.double x) ↔ type.content = .double := by
  apply keeps_iff_of_kind rfl
  intro type kind
  cases type with
  | double => rfl
  | _ => cases kind

theorem keeps_long_iff {n : Int64} {type : DataType} :
    type.Keeps (.long n) ↔ type.content = .long := by
  apply keeps_iff_of_kind rfl
  intro type kind
  cases type with
  | long => rfl
  | _ => cases kind

theorem toInt_int (n : Int32) : (Value.int n).toInt = .ok (some n) := Value.toInt_of_toLong rfl

theorem keeps_int_iff {n : Int32} {type : DataType} :
    type.Keeps (.int n) ↔ type.content = .int := by
  apply keeps_iff_of_kind rfl
  intro type kind
  cases type with
  | byte | short | int =>
    rw [DataType.Keeps, ofTyped, toInt_int]
    rfl
  | _ => cases kind

theorem keeps_integer_iff {n : Int} {type : DataType} :
    type.Keeps (integerValue n) ↔ type.content = (integerType n).content := by
  rw [integerValue, integerType]
  cases int32? n with
  | some _ => exact keeps_int_iff
  | none =>
    cases int64? n with
    | some _ => exact keeps_long_iff
    | none => exact keeps_double_iff

theorem ofValues_eq (vs : List Value) : ofValues vs = vs.map ofValue := by
  induction vs with
  | nil => rfl
  | cons v vs ih => rw [ofValues, ih, List.map_cons]

theorem mapM_eq_map_iff {convert : Value → Except ValueError Cell} {vs : List Value} :
    vs.mapM convert = .ok (vs.map ofValue) ↔ ∀ v ∈ vs, convert v = .ok (ofValue v) := by
  rw [mapM_eq_ok_iff, List.forall₂_map_right_iff, List.forall₂_same]

theorem map_eq_ok_iff {α : Type} {make : α → Cell} (injective : ∀ a b, make a = make b → a = b)
    {result : Except ValueError α} {a : α} : result.map make = .ok (make a) ↔ result = .ok a := by
  cases result with
  | error e => simp [Except.map]
  | ok b =>
    simp only [Except.map, Except.ok.injEq]
    exact ⟨injective b a, congrArg make⟩

theorem keeps_array_iff {vs : List Value} {type : DataType} :
    type.Keeps (.array vs) ↔ ∃ item, type = .array item ∧ ∀ v ∈ vs, item.Keeps v := by
  have own (item : DataType) :
      (DataType.array item).Keeps (.array vs) ↔ ∀ v ∈ vs, item.Keeps v := by
    have present : (Value.array vs).isNull = false := rfl
    rw [DataType.Keeps, ofTyped, present, if_neg Bool.false_ne_true, ofItems, ofValue,
      map_eq_ok_iff (fun _ _ => list.inj), ofValues_eq]
    exact mapM_eq_map_iff
  constructor
  · intro keeps
    have kind : type.content = .list := content_of_keeps keeps rfl
    cases type with
    | array item => exact ⟨item, rfl, (own item).mp keeps⟩
    | _ => cases kind
  · rintro ⟨item, rfl, keeps⟩
    exact (own item).mpr keeps

theorem ofMembers_eq_iff {entries rest : List (String × Value)} {fields : List (Field DataType)}
    (listed : ∀ entry ∈ rest, entries.lookup entry.1 = some entry.2) :
    ofMembers entries fields = .ok (ofEntries rest) ↔ List.Forall₂ Field.Keeps fields rest := by
  induction fields generalizing rest with
  | nil => cases rest <;> simp [ofMembers, ofEntries]
  | cons field fields ih =>
    rw [ofMembers_cons_eq_ok_iff]
    cases rest with
    | nil => simp [ofEntries]
    | cons entry rest =>
      rcases List.forall_mem_cons.mp listed with ⟨first, others⟩
      rw [List.forall₂_cons, ← ih others]
      constructor
      · rintro ⟨cell, cells, own, left, parts⟩
        rw [ofEntries] at parts
        simp only [List.cons.injEq, Prod.mk.injEq] at parts
        rcases parts with ⟨⟨name, value⟩, same⟩
        rw [ofMember, ← name, first, ← value] at own
        exact ⟨⟨name.symm, own⟩, same ▸ left⟩
      · rintro ⟨⟨name, keeps⟩, left⟩
        refine ⟨_, _, ?_, left, by rw [ofEntries, name]⟩
        rw [ofMember, name, first]
        exact keeps

theorem keeps_record_iff {entries : List (String × Value)} (once : (entries.map Prod.fst).Nodup)
    {type : DataType} : type.Keeps (.record entries) ↔
      ∃ fields, type = .record fields ∧ List.Forall₂ Field.Keeps fields entries := by
  have own (fields : List (Field DataType)) : (DataType.record fields).Keeps (.record entries) ↔
      List.Forall₂ Field.Keeps fields entries := by
    have present : (Value.record entries).isNull = false := rfl
    rw [DataType.Keeps, ofTyped, present, if_neg Bool.false_ne_true, ofRecord, ofValue,
      map_eq_ok_iff (fun _ _ => struct.inj)]
    exact ofMembers_eq_iff fun entry member => lookup_of_mem once member
  constructor
  · intro keeps
    have kind : type.content = .struct := content_of_keeps keeps rfl
    cases type with
    | record fields => exact ⟨fields, rfl, (own fields).mp keeps⟩
    | _ => cases kind
  · rintro ⟨fields, rfl, keeps⟩
    exact (own fields).mpr keeps

end Cell

namespace JsonValue

mutual

def Distinct : JsonValue → Prop
  | .array items => DistinctItems items
  | .object members => (members.map Prod.fst).Nodup ∧ DistinctMembers members
  | _ => True

def DistinctItems : List JsonValue → Prop
  | [] => True
  | item :: items => item.Distinct ∧ DistinctItems items

def DistinctMembers : List (String × JsonValue) → Prop
  | [] => True
  | (_, v) :: members => v.Distinct ∧ DistinctMembers members

end

mutual

/-- The value has the shape of the type: null any shape, a scalar that of its own kind, an array
that of an array type of whose item type all its items are, and an object that of a record type with
its members as fields, in their order. -/
def conforms : JsonValue → DataType → Bool
  | .null, _ => true
  | .bool _, type => type.content == .boolean
  | .integer n, type => type.content == (integerType n).content
  | .double _, type => type.content == .double
  | .string _, type => type.content == .string
  | .array items, .array item => itemsConform items item
  | .object members, .record fields => membersConform members fields
  | _, _ => false

def itemsConform : List JsonValue → DataType → Bool
  | [], _ => true
  | item :: items, type => item.conforms type && itemsConform items type

def membersConform : List (String × JsonValue) → List (Field DataType) → Bool
  | [], [] => true
  | (name, v) :: members, field :: fields =>
    field.name == name && v.conforms field.type && membersConform members fields
  | _, _ => false

end

theorem names_toEntries (members : List (String × JsonValue)) :
    (toEntries members).map Prod.fst = members.map Prod.fst := by
  induction members with
  | nil => rfl
  | cons member members ih => rw [toEntries, List.map_cons, List.map_cons, ih]

mutual

/-- The types that keep a value are those it conforms to. -/
theorem keeps_iff (j : JsonValue) (distinct : j.Distinct) (type : DataType) :
    type.Keeps j.toValue ↔ j.conforms type := by
  cases j with
  | null => simp [toValue, Cell.keeps_null, conforms]
  | bool b => simp [toValue, Cell.keeps_bool_iff, conforms]
  | integer n => simp [toValue, Cell.keeps_integer_iff, conforms]
  | double x => simp [toValue, Cell.keeps_double_iff, conforms]
  | string s => simp [toValue, Cell.keeps_string_iff, conforms]
  | array items =>
    rw [toValue, Cell.keeps_array_iff]
    cases type with
    | array item => simp [conforms, itemsKeep_iff items distinct item]
    | _ => simp [conforms]
  | object members =>
    rw [toValue, Cell.keeps_record_iff ((names_toEntries members).symm ▸ distinct.1)]
    cases type with
    | record fields => simp [conforms, membersKeep_iff members distinct.2 fields]
    | _ => simp [conforms]

theorem itemsKeep_iff (items : List JsonValue) (distinct : DistinctItems items) (type : DataType) :
    (∀ v ∈ toValues items, type.Keeps v) ↔ itemsConform items type := by
  cases items with
  | nil => simp [toValues, itemsConform]
  | cons item items =>
    simp [toValues, itemsConform, keeps_iff item distinct.1 type,
      itemsKeep_iff items distinct.2 type]

theorem membersKeep_iff (members : List (String × JsonValue)) (distinct : DistinctMembers members)
    (fields : List (Field DataType)) :
    List.Forall₂ Field.Keeps fields (toEntries members) ↔ membersConform members fields := by
  cases members with
  | nil => cases fields <;> simp [toEntries, membersConform]
  | cons member members =>
    cases fields with
    | nil => simp [toEntries, membersConform]
    | cons field fields =>
      simp [toEntries, membersConform, Field.Keeps, keeps_iff member.2 distinct.1 field.type,
        membersKeep_iff members distinct.2 fields, and_assoc]

end

mutual

/-- In every array, also inside other values, the items that are not null have one inferred type. -/
def Alike : JsonValue → Prop
  | .array items => ItemsAlike items (inferItemType items)
  | .object members => MembersAlike members
  | _ => True

def ItemsAlike : List JsonValue → DataType → Prop
  | [], _ => True
  | item :: items, type =>
    (item = .null ∨ item.inferType = type ∧ item.Alike) ∧ ItemsAlike items type

def MembersAlike : List (String × JsonValue) → Prop
  | [] => True
  | (_, v) :: members => v.Alike ∧ MembersAlike members

end

mutual

theorem conforms_of_alike (j : JsonValue) (alike : j.Alike) : j.conforms j.inferType := by
  cases j with
  | null => rfl
  | bool b | double x | string s => rfl
  | integer n => simp [conforms, inferType]
  | array items => exact itemsConform_of_alike items (inferItemType items) alike
  | object members => exact membersConform_of_alike members alike

theorem itemsConform_of_alike (items : List JsonValue) (type : DataType)
    (alike : ItemsAlike items type) : itemsConform items type := by
  cases items with
  | nil => rfl
  | cons item items =>
    have rest := itemsConform_of_alike items type alike.2
    have first : item.conforms type := by
      rcases alike.1 with null | ⟨same, own⟩
      · rw [null, conforms]
      · exact same ▸ conforms_of_alike item own
    rw [itemsConform, first, rest, Bool.and_self]

theorem membersConform_of_alike (members : List (String × JsonValue))
    (alike : MembersAlike members) : membersConform members (inferFields members) := by
  cases members with
  | nil => rfl
  | cons member members =>
    have first := conforms_of_alike member.2 alike.1
    have rest := membersConform_of_alike members alike.2
    simp [membersConform, inferFields, first, rest]

end

theorem mem_toEntries {members : List (String × JsonValue)} {name : String} {v : JsonValue}
    (member : (name, v) ∈ members) : (name, v.toValue) ∈ toEntries members := by
  induction members with
  | nil => cases member
  | cons first members ih =>
    rw [toEntries]
    rcases List.mem_cons.mp member with same | other
    · exact same ▸ List.mem_cons_self
    · exact List.mem_cons_of_mem _ (ih other)

theorem distinct_of_mem {members : List (String × JsonValue)} (distinct : DistinctMembers members)
    {name : String} {v : JsonValue} (member : (name, v) ∈ members) : v.Distinct := by
  induction members with
  | nil => cases member
  | cons first members ih =>
    rcases List.mem_cons.mp member with same | other
    · cases same
      exact distinct.1
    · exact ih distinct.2 other

theorem get?_ofMembers {members : List (String × JsonValue)} (once : (members.map Prod.fst).Nodup)
    {name : String} {v : JsonValue} (member : (name, v) ∈ members) :
    (Record.ofMembers members).get? name = some v.toValue := by
  have reversed : ((toEntries members).reverse.map Prod.fst).Nodup := by
    rw [List.map_reverse, List.nodup_reverse, names_toEntries]
    exact once
  exact lookup_of_mem reversed (List.mem_reverse.mpr (mem_toEntries member))

theorem typedCell_eq_ok_iff {r : Record} {field : Field DataType} {v : Value}
    (found : r.get? field.name = some v) {cell : Cell} :
    Session.typedCell r field = .ok cell ↔ Cell.ofTyped v field.type = .ok cell := by
  simp only [Session.typedCell, found]
  cases Cell.ofTyped v field.type <;> simp [Except.mapError]

/-- A value is converted by its inferred type without any change exactly if it conforms to that
type. It does if in each array all items that are not null have one inferred type. In the columns of
maps and of structs a record made of an object keeps just the members that conform. -/
theorem inferType_keeps_iff :
    (∀ j : JsonValue, j.Distinct →
      (Cell.ofTyped j.toValue j.inferType = .ok (Cell.ofValue j.toValue) ↔
        j.conforms j.inferType)) ∧
    (∀ j : JsonValue, j.Alike → j.conforms j.inferType) ∧
    ∀ members : List (String × JsonValue), (object members).Distinct →
      ∀ name v, (name, v) ∈ members → ∀ s : Session,
        (∀ key value, s.convertField (Record.ofMembers members) ⟨name, v.inferType, true⟩
          (.map key value) = .ok (Cell.ofValue v.toValue) ↔ v.conforms v.inferType) ∧
        ∀ fields, s.convertField (Record.ofMembers members) ⟨name, v.inferType, true⟩
          (.struct fields) = .ok (Cell.ofValue v.toValue) ↔ v.conforms v.inferType := by
  refine ⟨fun j distinct => keeps_iff j distinct j.inferType, conforms_of_alike, ?_⟩
  intro members distinct name v member s
  have typed : Session.typedCell (Record.ofMembers members) ⟨name, v.inferType, true⟩ =
      .ok (Cell.ofValue v.toValue) ↔ v.conforms v.inferType := by
    rw [typedCell_eq_ok_iff (get?_ofMembers distinct.1 member)]
    exact keeps_iff v (distinct_of_mem distinct.2 member) v.inferType
  exact ⟨fun _ _ => typed, fun _ => typed⟩

def orders : JsonValue :=
  .object [("lines", .array [.null, .object [("sku", .string "a"), ("units", .array [])]]),
    ("sizes", .array [.integer 5000000000, .null, .integer (-5000000000)])]

theorem inferType_keeps_orders : orders.Distinct ∧
    Cell.ofTyped orders.toValue orders.inferType = .ok (Cell.ofValue orders.toValue) := by
  have distinct : orders.Distinct := by
    simp [orders, Distinct, DistinctMembers, DistinctItems]
  exact ⟨distinct, (inferType_keeps_iff.1 orders distinct).mpr (by decide)⟩

def mixed : JsonValue := .array [.integer 1, .string "a"]

theorem mixed_kept_by_none (type : DataType) : ¬ type.Keeps mixed.toValue := by
  intro keeps
  obtain ⟨item, -, each⟩ := Cell.keeps_array_iff.mp keeps
  have number : item.content = .int := Cell.keeps_integer_iff.mp (each (integerValue 1) (.head _))
  have text : item.content = .string :=
    Cell.keeps_string_iff.mp (each (.string "a") (.tail _ (.head _)))
  cases number.symm.trans text

theorem storable_mixed : mixed.Storable := by
  apply Storable.array
  intro item member
  rcases List.mem_pair.mp member with rfl | rfl
  · exact .integer (by decide) (by decide)
  · exact .string "a"

theorem inferType_loses_mixed : ¬ ∀ j : JsonValue, j.Storable → j.Distinct →
    Cell.ofTyped j.toValue j.inferType = .ok (Cell.ofValue j.toValue) := by
  intro claim
  exact mixed_kept_by_none mixed.inferType (claim mixed storable_mixed ⟨trivial, trivial, trivial⟩)

end JsonValue

end RecordRows
