import RecordRows.Proofs.Record.Line
/-! An outline is that of one schema only. -/

namespace RecordRows

open Text

mutual

/-- All names are made of letters, digits and underscores, and all formats are legible. -/
def DataType.legible : DataType → Bool
  | .date format | .timestamp format => format.all legibleFormat
  | .array item => item.legible
  | .map value => value.legible
  | .record fields => Schema.legible fields
  | _ => true

def Schema.legible : List (Field DataType) → Bool
  | [] => true
  | ⟨name, type, _⟩ :: fields => legibleName name && type.legible && Schema.legible fields

end

theorem DataType.legible_format {type : DataType} (legible : type.legible) :
    ∀ text ∈ type.format, legibleFormat text := by
  cases type with
  | date format | timestamp format =>
    intro text member
    rw [DataType.legible] at legible
    exact (Option.all_eq_true legibleFormat format).mp legible text member
  | _ => exact nofun

/-- The first of the lines stands less far inside than `indent`. -/
def Below (indent : Nat) (lines : List String) : Prop := ∀ line ∈ lines.head?, depth line < indent

theorem below_nil (indent : Nat) : Below indent [] := by
  intro line member
  cases member

theorem Below.mono {indent further : Nat} {lines : List String} (below : Below indent lines)
    (less : indent ≤ further) : Below further lines :=
  fun line member => Nat.lt_of_lt_of_le (below line member) less

theorem blockHead_unique {type other : DataType} {nullable again : Option Bool} {indent : Nat}
    {rest back : List String} (known : nullable.isSome = again.isSome)
    (same : blockHead type nullable indent ++ rest = blockHead other again indent ++ back) :
    type.name = other.name ∧ nullable = again ∧ rest = back := by
  obtain ⟨first, behind⟩ := List.cons.inj same
  have name : type.name = other.name := (String.append_right_inj _).mp (indented_injective first)
  match nullable, again with
  | none, none => exact ⟨name, rfl, behind⟩
  | some a, some b =>
    obtain ⟨second, behind⟩ := List.cons.inj behind
    have flag : boolText a = boolText b :=
      (String.append_right_inj _).mp (indented_injective second)
    exact ⟨name, by rw [boolText_injective flag], behind⟩
  | none, some _ => cases known
  | some _, none => cases known

theorem labelled?_eq_some_iff {block? : Nat → Option (List String)} {label : String}
    {type : DataType} {nullable : Option Bool} {indent : Nat} {lines : List String} :
    labelled? block? label type nullable indent = some lines ↔
      type.isPrimitive ∧ lines = [indented indent (primitiveLine label type nullable)] ∨
      ¬ type.isPrimitive ∧ ∃ block, block? (indent + 4) = some block ∧
        lines = indented indent (label ++ ":") :: block := by
  rw [labelled?]
  by_cases primitive : type.isPrimitive
  · simp [primitive, eq_comm]
  · rw [if_neg primitive, Option.map_eq_some_iff]
    simp [primitive, eq_comm]

/-- Whatever lines follow that stand less far inside, the block of the type is the block of no
other one. -/
def DataType.Apart (type : DataType) : Prop :=
  ∀ ⦃other : DataType⦄ ⦃nullable again : Option Bool⦄ ⦃indent : Nat⦄
    ⦃lines others rest back : List String⦄,
    type.block? nullable indent = some lines → other.block? again indent = some others →
    type.legible → other.legible → nullable.isSome = again.isSome →
    Below indent rest → Below indent back → lines ++ rest = others ++ back →
    type = other ∧ nullable = again ∧ rest = back

def Schema.Apart (fields : List (Field DataType)) : Prop :=
  ∀ ⦃others : List (Field DataType)⦄ ⦃indent : Nat⦄ ⦃lines more rest back : List String⦄,
    Schema.lines? indent fields = some lines → Schema.lines? indent others = some more →
    Schema.legible fields → Schema.legible others →
    Below indent rest → Below indent back → lines ++ rest = more ++ back →
      fields = others ∧ rest = back

theorem DataType.Apart.labelled {type other : DataType} (apart : type.Apart) {label also : String}
    {nullable again : Option Bool} {indent : Nat} {lines others rest back : List String}
    (first : labelled? (type.block? nullable) label type nullable indent = some lines)
    (second : labelled? (other.block? again) also other again indent = some others)
    (named : legibleName label) (called : legibleName also) (legible : type.legible)
    (clear : other.legible)
    (known : nullable.isSome = again.isSome) (ends : Below (indent + 1) rest)
    (stops : Below (indent + 1) back) (same : lines ++ rest = others ++ back) :
    label = also ∧ type = other ∧ nullable = again ∧ rest = back := by
  rcases labelled?_eq_some_iff.mp first with ⟨primitive, rfl⟩ | ⟨-, block, found, rfl⟩
  · rcases labelled?_eq_some_iff.mp second with ⟨simple, rfl⟩ | ⟨-, _, -, rfl⟩
    · obtain ⟨line, behind⟩ := List.cons.inj same
      obtain ⟨labels, types, nullables⟩ := primitiveLine_injective named called primitive simple
        (legible_format legible) (legible_format clear) (indented_injective line)
      exact ⟨labels, types, nullables, behind⟩
    · have line := indented_injective (List.cons.inj same).1
      exact absurd line (primitiveLine_ne_label named called type nullable)
  · rcases labelled?_eq_some_iff.mp second with ⟨-, rfl⟩ | ⟨-, _, again, rfl⟩
    · have line := indented_injective (List.cons.inj same).1
      exact absurd line.symm (primitiveLine_ne_label called named other _)
    · obtain ⟨line, behind⟩ := List.cons.inj same
      have labels : label = also := (String.append_left_inj _).mp (indented_injective line)
      obtain ⟨types, nullables, rests⟩ := apart found again legible clear known
        (ends.mono (by omega)) (stops.mono (by omega)) behind
      exact ⟨labels, types, nullables, rests⟩

theorem DataType.Apart.inside {item also type other : DataType} (apart : item.Apart)
    {label : String} (named : legibleName label) {nullable again : Option Bool} {indent : Nat}
    {lines others rest back : List String}
    (first : (labelled? (item.block? none) label item none indent).map
      (blockHead type nullable indent ++ ·) = some lines)
    (second : (labelled? (also.block? none) label also none indent).map
      (blockHead other again indent ++ ·) = some others)
    (legible : item.legible) (clear : also.legible) (known : nullable.isSome = again.isSome)
    (ends : Below indent rest) (stops : Below indent back) (same : lines ++ rest = others ++ back) :
    item = also ∧ nullable = again ∧ rest = back := by
  rw [Option.map_eq_some_iff] at first second
  obtain ⟨inner, found, rfl⟩ := first
  obtain ⟨deeper, located, rfl⟩ := second
  rw [List.append_assoc, List.append_assoc] at same
  obtain ⟨-, nullables, bodies⟩ := blockHead_unique known same
  obtain ⟨-, items, -, rests⟩ := apart.labelled found located named named legible clear rfl
    (ends.mono (by omega)) (stops.mono (by omega)) bodies
  exact ⟨items, nullables, rests⟩

theorem DataType.block?_head {type : DataType} {nullable : Option Bool} {indent : Nat}
    {lines : List String} (found : type.block? nullable indent = some lines) :
    ∃ body, lines = blockHead type nullable indent ++ body := by
  cases type with
  | record | array | map =>
    rw [block?, Option.map_eq_some_iff] at found
    obtain ⟨inner, -, rfl⟩ := found
    exact ⟨_, rfl⟩
  | _ => cases found

theorem Schema.lines?_cons {name : String} {type : DataType} {nullable : Bool}
    {fields : List (Field DataType)} {indent : Nat} {lines : List String} :
    Schema.lines? indent (⟨name, type, nullable⟩ :: fields) = some lines ↔ ∃ first rest,
      labelled? (type.block? (some nullable)) name type (some nullable) indent = some first ∧
      Schema.lines? indent fields = some rest ∧ first ++ rest = lines := by
  simp [Schema.lines?, Option.bind_eq_some_iff]

theorem labelled?_head {block? : Nat → Option (List String)} {label : String} {type : DataType}
    {nullable : Option Bool} {indent : Nat} {lines : List String} (named : legibleName label)
    (found : labelled? block? label type nullable indent = some lines) :
    ∃ line tail, lines = line :: tail ∧ depth line = indent := by
  rcases labelled?_eq_some_iff.mp found with ⟨-, rfl⟩ | ⟨-, block, -, rfl⟩
  · exact ⟨_, _, rfl, depth_label named (toList_primitiveLine label type nullable) indent⟩
  · exact ⟨_, _, rfl, depth_label named (String.toList_append ..) indent⟩

theorem Schema.legible_cons {name : String} {type : DataType} {nullable : Bool}
    {fields : List (Field DataType)} (legible : Schema.legible (⟨name, type, nullable⟩ :: fields)) :
    legibleName name ∧ type.legible ∧ Schema.legible fields := by
  rw [Schema.legible, Bool.and_eq_true, Bool.and_eq_true, and_assoc] at legible
  exact legible

theorem Schema.lines?_head {field : Field DataType} {fields : List (Field DataType)} {indent : Nat}
    {lines : List String} (found : Schema.lines? indent (field :: fields) = some lines)
    (legible : Schema.legible (field :: fields)) :
    ∃ line tail, lines = line :: tail ∧ depth line = indent := by
  obtain ⟨name, type, nullable⟩ := field
  obtain ⟨first, rest, own, -, rfl⟩ := Schema.lines?_cons.mp found
  obtain ⟨line, tail, rfl, inside⟩ := labelled?_head (Schema.legible_cons legible).1 own
  exact ⟨line, tail ++ rest, rfl, inside⟩

theorem Schema.below_lines {fields : List (Field DataType)} {indent : Nat}
    {lines rest : List String} (found : Schema.lines? indent fields = some lines)
    (legible : Schema.legible fields)
    (ends : Below indent rest) : Below (indent + 1) (lines ++ rest) := by
  cases fields with
  | nil =>
    cases found
    exact ends.mono (by omega)
  | cons field fields =>
    obtain ⟨line, tail, rfl, inside⟩ := Schema.lines?_head found legible
    intro own member
    cases member
    omega

theorem Schema.not_below_lines {field : Field DataType} {fields : List (Field DataType)}
    {indent : Nat} {lines rest : List String}
    (found : Schema.lines? indent (field :: fields) = some lines)
    (legible : Schema.legible (field :: fields)) : ¬ Below indent (lines ++ rest) := by
  intro below
  obtain ⟨line, tail, rfl, inside⟩ := Schema.lines?_head found legible
  have less := below line rfl
  omega

mutual

theorem DataType.apart (type : DataType) : type.Apart := by
  intro other nullable again indent lines others rest back first second legible clear known ends
    stops same
  -- The first line names the kind of both types: only types of one kind are left to compare.
  obtain ⟨body, head⟩ := DataType.block?_head first
  obtain ⟨rival, front⟩ := DataType.block?_head second
  have name : type.name = other.name := by
    rw [head, front, List.append_assoc, List.append_assoc] at same
    exact (blockHead_unique known same).1
  cases type with
  | record fields =>
    cases other with
    | record also =>
      rw [DataType.block?, Option.map_eq_some_iff] at first second
      obtain ⟨inner, found, rfl⟩ := first
      obtain ⟨deeper, located, rfl⟩ := second
      rw [List.append_assoc, List.append_assoc] at same
      obtain ⟨-, nullables, bodies⟩ := blockHead_unique known same
      obtain ⟨fieldLists, rests⟩ := Schema.apart fields found located legible clear
        (ends.mono (by omega)) (stops.mono (by omega)) (List.cons.inj bodies).2
      exact ⟨by rw [fieldLists], nullables, rests⟩
    | _ => simp [DataType.name] at name
  | array item =>
    cases other with
    | array also =>
      rw [DataType.block?] at first second
      obtain ⟨items, nullables, rests⟩ :=
        (DataType.apart item).inside (by decide : legibleName "item")
        first second legible clear known ends stops same
      exact ⟨by rw [items], nullables, rests⟩
    | _ => simp [DataType.name] at name
  | map value =>
    cases other with
    | map also =>
      rw [DataType.block?] at first second
      obtain ⟨values, nullables, rests⟩ :=
        (DataType.apart value).inside (by decide : legibleName "value")
        first second legible clear known ends stops same
      exact ⟨by rw [values], nullables, rests⟩
    | _ => simp [DataType.name] at name
  | _ => cases first

theorem Schema.apart (fields : List (Field DataType)) : Schema.Apart fields := by
  intro others indent lines more rest back first second legible clear ends stops same
  -- Where one list ends and the other goes on, a field would stand in lines less far inside.
  cases fields with
  | nil =>
    cases first
    cases others with
    | nil =>
      cases second
      exact ⟨rfl, same⟩
    | cons other others =>
      rw [List.nil_append] at same
      rw [same] at ends
      exact absurd ends (Schema.not_below_lines second clear)
  | cons field fields =>
    cases others with
    | nil =>
      cases second
      rw [List.nil_append] at same
      rw [← same] at stops
      exact absurd stops (Schema.not_below_lines first legible)
    | cons other others =>
      obtain ⟨name, type, nullable⟩ := field
      obtain ⟨also, kind, again⟩ := other
      obtain ⟨own, fellows, found, behind, rfl⟩ := Schema.lines?_cons.mp first
      obtain ⟨rival, further, located, after, rfl⟩ := Schema.lines?_cons.mp second
      obtain ⟨named, legible, lower⟩ := Schema.legible_cons legible
      obtain ⟨called, clear, upper⟩ := Schema.legible_cons clear
      rw [List.append_assoc, List.append_assoc] at same
      -- The other fields are at the depth of this one, and the block of its type is deeper.
      obtain ⟨rfl, rfl, nullables, tails⟩ :=
        (DataType.apart type).labelled found located named called legible clear rfl
          (Schema.below_lines behind lower ends) (Schema.below_lines after upper stops) same
      obtain ⟨rfl, rests⟩ := Schema.apart fields behind after lower upper ends stops tails
      obtain rfl := Option.some.inj nullables
      exact ⟨rfl, rests⟩

end

section OneLine

theorem oneLine_blockHead (type : DataType) (nullable : Option Bool) (indent : Nat) :
    ∀ line ∈ blockHead type nullable indent, OneLine line.toList := by
  have kind : OneLine ("type: " ++ type.name).toList := by
    rw [String.toList_append]
    exact OneLine.append (by decide) type.oneLine_name
  intro line member
  rcases List.mem_cons.mp member with rfl | flag
  · exact oneLine_indented kind indent
  · match nullable with
    | none => cases flag
    | some b =>
      obtain rfl := List.mem_singleton.mp flag
      apply oneLine_indented
      cases b <;> decide

theorem oneLine_labelled {block? : Nat → Option (List String)} {label : String} {type : DataType}
    (block : ∀ {indent lines}, block? indent = some lines → ∀ line ∈ lines, OneLine line.toList)
    (named : legibleName label) (legible : type.legible) {nullable : Option Bool} {indent : Nat}
    {lines : List String} (found : labelled? block? label type nullable indent = some lines) :
    ∀ line ∈ lines, OneLine line.toList := by
  intro line member
  rcases labelled?_eq_some_iff.mp found with ⟨-, rfl⟩ | ⟨-, inner, within, rfl⟩
  · obtain rfl := List.mem_singleton.mp member
    exact oneLine_indented (oneLine_primitiveLine named (DataType.legible_format legible) nullable)
      indent
  · rcases List.mem_cons.mp member with rfl | deeper
    · apply oneLine_indented
      rw [String.toList_append]
      exact (oneLine_of_legibleName named).append (by decide)
    · exact block within line deeper

theorem oneLine_inside {label : String} {item type : DataType}
    (block : ∀ {indent lines}, item.block? none indent = some lines →
      ∀ line ∈ lines, OneLine line.toList)
    (named : legibleName label) (legible : item.legible) {nullable : Option Bool} {indent : Nat}
    {lines : List String}
    (found : (labelled? (item.block? none) label item none indent).map
      (blockHead type nullable indent ++ ·) = some lines) :
    ∀ line ∈ lines, OneLine line.toList := by
  intro line member
  rw [Option.map_eq_some_iff] at found
  obtain ⟨inner, within, rfl⟩ := found
  rcases List.mem_append.mp member with head | body
  · exact oneLine_blockHead type nullable indent line head
  · exact oneLine_labelled block named legible within line body

mutual

theorem DataType.oneLine_block (type : DataType) (legible : type.legible) {nullable : Option Bool}
    {indent : Nat} {lines : List String} (found : type.block? nullable indent = some lines) :
    ∀ line ∈ lines, OneLine line.toList := by
  cases type with
  | record fields =>
    rw [DataType.block?, Option.map_eq_some_iff] at found
    obtain ⟨inner, within, rfl⟩ := found
    intro line member
    rcases List.mem_append.mp member with head | body
    · exact oneLine_blockHead _ nullable indent line head
    · rcases List.mem_cons.mp body with rfl | deeper
      · exact oneLine_indented (by decide) indent
      · exact Schema.oneLine_lines fields legible within line deeper
  | array item =>
    rw [DataType.block?] at found
    have inner : item.legible := legible
    exact oneLine_inside (item.oneLine_block inner) (by decide : legibleName "item") inner found
  | map value =>
    rw [DataType.block?] at found
    have inner : value.legible := legible
    exact oneLine_inside (value.oneLine_block inner) (by decide : legibleName "value") inner found
  | _ => cases found

theorem Schema.oneLine_lines (fields : List (Field DataType)) (legible : Schema.legible fields)
    {indent : Nat} {lines : List String} (found : Schema.lines? indent fields = some lines) :
    ∀ line ∈ lines, OneLine line.toList := by
  cases fields with
  | nil =>
    cases found
    exact List.forall_mem_nil _
  | cons field fields =>
    obtain ⟨name, type, nullable⟩ := field
    obtain ⟨first, rest, own, behind, rfl⟩ := Schema.lines?_cons.mp found
    obtain ⟨named, clear, lower⟩ := Schema.legible_cons legible
    intro line member
    rcases List.mem_append.mp member with head | tail
    · exact oneLine_labelled (type.oneLine_block clear) named clear own line head
    · exact Schema.oneLine_lines fields lower behind line tail

end

end OneLine

theorem toList_joinLines_cons (line : String) (lines : List String) :
    (joinLines (line :: lines)).toList = line.toList ++ '\n' :: (joinLines lines).toList := by
  have ended : "\n".toList = ['\n'] := rfl
  simp only [joinLines, List.map_cons, String.join_cons, String.toList_append, ended,
    List.append_assoc, List.singleton_append]

theorem joinLines_injective {lines others : List String} (one : ∀ line ∈ lines, OneLine line.toList)
    (single : ∀ line ∈ others, OneLine line.toList) (same : joinLines lines = joinLines others) :
    lines = others := by
  -- Each line reaches to the first end of line.
  have inside {cs : List Char} (one : OneLine cs) : ∀ c ∈ cs, (c != '\n') = true := by
    intro c member
    rw [bne_iff_ne]
    rintro rfl
    exact one member
  induction lines generalizing others with
  | nil =>
    cases others with
    | nil => rfl
    | cons other others =>
      have texts := congrArg String.toList same
      rw [toList_joinLines_cons] at texts
      exact absurd texts.symm (List.append_ne_nil_of_right_ne_nil _ (List.cons_ne_nil _ _))
  | cons line lines ih =>
    have texts := congrArg String.toList same
    cases others with
    | nil =>
      rw [toList_joinLines_cons] at texts
      exact absurd texts (List.append_ne_nil_of_right_ne_nil _ (List.cons_ne_nil _ _))
    | cons other others =>
      rw [toList_joinLines_cons, toList_joinLines_cons] at texts
      rw [List.forall_mem_cons] at one single
      obtain ⟨own, behind⟩ := run_unique (inside one.1) (inside single.1) (by simp) (by simp) texts
      obtain rfl := String.toList_inj.mp own
      rw [ih one.2 single.2 (String.toList_inj.mp (List.cons.inj behind).2)]

namespace Schema

theorem outline?_injective {left right : Schema} (legible : Schema.legible left)
    (clear : Schema.legible right) (same : left.outline? = right.outline?) : left = right := by
  obtain ⟨lines, found⟩ := Option.isSome_iff_exists.mp (Schema.isSome_lines? left 0)
  obtain ⟨others, located⟩ := Option.isSome_iff_exists.mp (Schema.isSome_lines? right 0)
  rw [outline?, outline?, found, located, Option.map_some, Option.map_some, Option.some_inj] at same
  have equal := joinLines_injective (oneLine_lines left legible found)
    (oneLine_lines right clear located) same
  rw [← equal] at located
  exact (apart left found located legible clear (below_nil 0) (below_nil 0) rfl).1

/-- Every schema has an outline, no block being asked of a type that has none. Two schemas of
legible names and formats have one outline only if they are the same. -/
theorem outline_unambiguous {left right : Schema} (legible : Schema.legible left)
    (clear : Schema.legible right) :
    (∀ schema : Schema, schema.outline? = some schema.outline) ∧
    (left.outline? = right.outline? ↔ left = right) ∧
    (left.outline = right.outline ↔ left = right) := by
  have whole (schema : Schema) : schema.outline? = some schema.outline :=
    (Option.some_get schema.isSome_outline?).symm
  have unique : left.outline? = right.outline? ↔ left = right := by
    constructor
    · exact outline?_injective legible clear
    · intro same
      rw [same]
  refine ⟨whole, unique, ?_⟩
  rw [← unique, whole, whole, Option.some_inj]

def within : Schema :=
  [⟨"fields", .record [⟨"item", .array (.record [⟨"type", .date (some "%Y, \x7d"), true⟩]), false⟩],
    true⟩]

def behind : Schema :=
  [⟨"fields", .record [⟨"item", .array (.record []), false⟩,
    ⟨"type", .date (some "%Y, \x7d"), true⟩], true⟩]

theorem outline_unambiguous_indented : Schema.legible within ∧ Schema.legible behind ∧
    within.outline ≠ behind.outline := by
  have legible : Schema.legible within := by decide
  have clear : Schema.legible behind := by decide
  refine ⟨legible, clear, fun same => ?_⟩
  have equal : within = behind := (outline_unambiguous legible clear).2.2.mp same
  cases equal

example : within.outline? = some (
    "fields:\n" ++
    "    type: record\n" ++
    "    nullable: true\n" ++
    "    fields:\n" ++
    "        item:\n" ++
    "            type: array\n" ++
    "            nullable: false\n" ++
    "            item:\n" ++
    "                type: record\n" ++
    "                fields:\n" ++
    "                    type: \x7b type: date, format: \"%Y, \x7d\", nullable: true \x7d\n") := by
  decide +kernel

end Schema

end RecordRows
