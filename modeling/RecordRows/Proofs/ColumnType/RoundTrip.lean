import RecordRows.Proofs.ColumnType.Acceptance
/-! The texts of types are spellings of them, so that printed types are read back. -/

namespace RecordRows

namespace ColumnType

open Text

theorem marked_alone {marks : List Char} (c : Char) (member : c ∈ marks) : Marked marks [c] :=
  ⟨[], c, [], .nil, member, .nil, rfl⟩

theorem timestampLocal_words : Separated Break Cased ["timestamp", "with", "local", "time", "zone"]
    "timestamp with local time zone".toList := by
  have timestamp : Cased "timestamp" "timestamp".toList := by decide
  have within : Cased "with" "with".toList := by decide
  have locale : Cased "local" "local".toList := by decide
  have time : Cased "time" "time".toList := by decide
  have zone : Cased "zone" "zone".toList := by decide
  have space : Break [' '] := by decide
  exact .cons timestamp space (.cons within space (.cons locale space (.cons time space
    (.single zone))))

theorem varchar_chars (n : Nat) : (Primitive.varchar n).chars =
    "varchar".toList ++ (['('] ++ (natChars n ++ [')'])) := by
  change "varchar(".toList ++ natChars n ++ [')'] = _
  simp

theorem char_chars (n : Nat) : (Primitive.char n).chars =
    "char".toList ++ (['('] ++ (natChars n ++ [')'])) := by
  change "char(".toList ++ natChars n ++ [')'] = _
  simp

theorem decimal_chars (p s : Nat) : (Primitive.decimal p s).chars =
    "decimal".toList ++ (['('] ++ (natChars p ++ ([','] ++ (natChars s ++ [')'])))) := by
  change "decimal(".toList ++ natChars p ++ ',' :: natChars s ++ [')'] = _
  simp

theorem primitive_spells_chars (p : Primitive) : p.Spells p.chars := by
  have left : Marked ['('] ['('] := marked_alone '(' (by decide)
  have right : Marked [')'] [')'] := marked_alone ')' (by decide)
  have comma : Marked [','] [','] := marked_alone ',' (by decide)
  cases p with
  | varchar n =>
    rw [varchar_chars]
    exact .varchar (by decide) left (numeral_natChars n) right
  | char n =>
    rw [char_chars]
    exact .char (by decide) left (numeral_natChars n) right
  | decimal p s =>
    rw [decimal_chars]
    exact .decimalScale (by decide) left (numeral_natChars p) comma (numeral_natChars s) right
  | timestampLocal => exact .timestampLocal timestampLocal_words
  | _ => exact .word rfl (by decide)

theorem memberChars_eq (members : List (String × ColumnType)) : memberChars members =
    [','].intercalate (members.map fun member => member.1.toList ++ ([':'] ++ member.2.chars)) := by
  induction members with
  | nil => rfl
  | cons member members ih =>
    cases members with
    | nil => simp [memberChars]
    | cons next members =>
      rw [memberChars, ih]
      simp [List.intercalate_cons_cons]

theorem listChars_eq (types : List ColumnType) :
    listChars types = [','].intercalate (types.map chars) := by
  induction types with
  | nil => rfl
  | cons type types ih =>
    cases types with
    | nil => simp [listChars]
    | cons next types =>
      rw [listChars, ih]
      simp [List.intercalate_cons_cons]

theorem intercalate_separated {α : Type} {spells : α → List Char → Prop} {text : α → List Char}
    {as : List α} (nonempty : as ≠ []) (spelled : ∀ a ∈ as, spells a (text a)) :
    Separated (Marked [',']) spells as ([','].intercalate (as.map text)) := by
  induction as with
  | nil => exact absurd rfl nonempty
  | cons a as ih =>
    have head := spelled a List.mem_cons_self
    cases as with
    | nil => simpa [List.intercalate] using Separated.single head
    | cons b bs =>
      have tail := ih (List.cons_ne_nil b bs) fun c member =>
        spelled c (List.mem_cons_of_mem a member)
      have comma : Marked [','] [','] := marked_alone ',' (by decide)
      simpa [List.intercalate] using Separated.cons head comma tail

theorem array_chars (item : ColumnType) : (array item).chars =
    "array".toList ++ (['<'] ++ (item.chars ++ ['>'])) := by
  change "array<".toList ++ item.chars ++ ['>'] = _
  simp

theorem map_chars (key value : ColumnType) : (map key value).chars =
    "map".toList ++ (['<'] ++ ((key.chars ++ ([','] ++ value.chars)) ++ ['>'])) := by
  change "map<".toList ++ key.chars ++ ',' :: value.chars ++ ['>'] = _
  simp

theorem struct_chars (members : List (String × ColumnType)) : (struct members).chars =
    "struct".toList ++ (['<'] ++ (memberChars members ++ ['>'])) := by
  change "struct<".toList ++ memberChars members ++ ['>'] = _
  simp

theorem union_chars (members : List ColumnType) : (union members).chars =
    "uniontype".toList ++ (['<'] ++ (listChars members ++ ['>'])) := by
  change "uniontype<".toList ++ listChars members ++ ['>'] = _
  simp

theorem spells_chars {type : ColumnType} (declarable : Declarable type) :
    Spells type type.chars := by
  have left : Marked ['<'] ['<'] := marked_alone '<' (by decide)
  have right : Marked ['>'] ['>'] := marked_alone '>' (by decide)
  induction declarable with
  | primitive p => exact .primitive (primitive_spells_chars p)
  | array inner ih =>
    rw [array_chars]
    exact .array (by decide) left ih right
  | map keyed valued keyIh valueIh =>
    rw [map_chars]
    exact .map (by decide) left keyIh (marked_alone ',' (by decide)) valueIh right
  | @struct members nonempty plain inner ih =>
    have content : Separated (Marked [',']) MemberSpells members (memberChars members) := by
      rw [memberChars_eq]
      apply intercalate_separated nonempty
      intro member found
      exact .named (plain member found) (marked_alone ':' (by decide)) (ih member found)
    rw [struct_chars]
    exact .struct (by decide) left content right
  | @union members nonempty inner ih =>
    have content : Separated (Marked [',']) Spells members (listChars members) := by
      rw [listChars_eq]
      exact intercalate_separated nonempty ih
    rw [union_chars]
    exact .union (by decide) left content right

theorem separated_mem {α : Type} {separator : List Char → Prop} {spells : α → List Char → Prop}
    {as : List α} {text : List Char} (items : Separated separator spells as text) :
    as ≠ [] ∧ ∀ a ∈ as, ∃ cs, spells a cs ∧ cs.length ≤ text.length := by
  induction items with
  | @single a cs head =>
    refine ⟨List.cons_ne_nil a [], ?_⟩
    intro b member
    obtain rfl : b = a := by simpa using member
    exact ⟨cs, head, Nat.le_refl _⟩
  | @cons a as cs mark more head between tail ih =>
    refine ⟨List.cons_ne_nil a as, ?_⟩
    intro b member
    rcases List.mem_cons.mp member with rfl | member
    · exact ⟨cs, head, by simp⟩
    · rcases ih.2 b member with ⟨ds, spelled, short⟩
      refine ⟨ds, spelled, ?_⟩
      simp only [List.length_append]
      omega

theorem declarable_of_spells (bound : Nat) {type : ColumnType} {text : List Char}
    (spelled : Spells type text) (short : text.length ≤ bound) : Declarable type := by
  -- Whatever can be spelled can be declared; by induction on the length of the spelling.
  induction bound generalizing type text with
  | zero =>
    have empty : text = [] := List.length_eq_zero_iff.mp (Nat.le_zero.mp short)
    exact absurd empty spelled.startsWord.ne_nil
  | succ bound ih =>
    cases spelled with
    | @primitive p cs scalar => exact .primitive p
    | array named opened content closed =>
      have positive := length_pos_of_cased named (by decide)
      simp only [List.length_append] at short
      exact .array (ih content (by omega))
    | map named opened keyed divided valued closed =>
      have positive := length_pos_of_cased named (by decide)
      simp only [List.length_append] at short
      exact .map (ih keyed (by omega)) (ih valued (by omega))
    | @struct members name left cs right named opened content closed =>
      have positive := length_pos_of_cased named (by decide)
      simp only [List.length_append] at short
      rcases separated_mem content with ⟨nonempty, spelledBy⟩
      have members : ∀ member ∈ members, IsName member.1.toList ∧ Declarable member.2 := by
        intro member found
        rcases spelledBy member found with ⟨ds, spelled, shorter⟩
        cases spelled with
        | named plain divided typed =>
          simp only [List.length_append] at shorter
          exact ⟨plain, ih typed (by omega)⟩
      exact .struct nonempty (fun member found => (members member found).1)
        fun member found => (members member found).2
    | @union members name left cs right named opened content closed =>
      have positive := length_pos_of_cased named (by decide)
      simp only [List.length_append] at short
      rcases separated_mem content with ⟨nonempty, spelledBy⟩
      refine .union nonempty ?_
      intro member found
      rcases spelledBy member found with ⟨ds, spelled, shorter⟩
      exact ih spelled (by omega)

def joined (first : ColumnType) : List (Char × ColumnType) → String
  | [] => first.text
  | (separator, next) :: more => first.text ++ String.singleton separator ++ joined next more

theorem joined_spells {first : ColumnType} {more : List (Char × ColumnType)}
    (separators : ∀ next ∈ more, next.1 ∈ [',', ':', ';'])
    (declarable : ∀ type ∈ first :: more.map Prod.snd, Declarable type) :
    SpellsList (first :: more.map Prod.snd) (joined first more).toList := by
  have body : Separated (Marked [',', ':', ';']) Spells (first :: more.map Prod.snd)
      (joined first more).toList := by
    induction more generalizing first with
    | nil =>
      rw [joined, text, String.toList_ofList]
      exact .single (spells_chars (declarable first (by simp)))
    | cons next more ih =>
      rcases next with ⟨separator, type⟩
      have head : Spells first first.chars := spells_chars (declarable first (by simp))
      have mark : Marked [',', ':', ';'] [separator] :=
        marked_alone separator (separators (separator, type) (by simp))
      have tail := ih (fun next member => separators next (List.mem_cons_of_mem _ member))
        fun type member => declarable type (List.mem_cons_of_mem _ member)
      simpa [joined, text] using Separated.cons head mark tail
  exact ⟨[], _, [], .nil, body, .nil, by simp⟩

theorem readList_joined {first : ColumnType} {more : List (Char × ColumnType)}
    (separators : ∀ next ∈ more, next.1 ∈ [',', ':', ';'])
    (declared : ∀ type ∈ first :: more.map Prod.snd, Declarable type ∧ WithinBounds type) :
    readList (joined first more).toList = .ok (first :: more.map Prod.snd) :=
  readList_of_spellsList (joined_spells separators fun type member => (declared type member).1)
    fun type member => (declared type member).2

theorem declared_of_readList {cs : List Char} {types : List ColumnType}
    (found : readList cs = .ok types) :
    ∀ type ∈ types, Declarable type ∧ WithinBounds type := by
  rcases (readList_eq_ok_iff cs types).mp found with ⟨-, rfl⟩ | ⟨spelled, within⟩
  · simp
  · rcases spelled with ⟨before, body, after, -, items, -, rfl⟩
    intro type member
    rcases (separated_mem items).2 type member with ⟨text, spelled, -⟩
    exact ⟨declarable_of_spells text.length spelled (Nat.le_refl _), within type member⟩

end ColumnType

namespace Properties

/-- Printed types are read back, whichever separators stand between them. So are the printed types
of any list that was read. -/
theorem readTypes_joined (first : ColumnType) (more : List (Char × ColumnType))
    (separators : ∀ next ∈ more, next.1 ∈ [',', ':', ';']) :
    ((∀ type ∈ first :: more.map Prod.snd, type.Declarable ∧ type.WithinBounds) →
      readTypes (ColumnType.joined first more) = .ok (first :: more.map Prod.snd)) ∧
    ∀ input, readTypes input = .ok (first :: more.map Prod.snd) →
      readTypes (ColumnType.joined first more) = .ok (first :: more.map Prod.snd) := by
  constructor
  · intro declared
    exact readTypes_ok.mpr (ColumnType.readList_joined separators declared)
  · intro input read
    have declared := ColumnType.declared_of_readList (readTypes_ok.mp read)
    exact readTypes_ok.mpr (ColumnType.readList_joined separators declared)

theorem readTypes_joined_nested :
    (∀ next ∈ [(';', ColumnType.union [.primitive .timestampLocal])], next.1 ∈ [',', ':', ';']) ∧
    (∀ type ∈ [ColumnType.struct [("a_1", .primitive (.decimal 38 38))],
      .union [.primitive .timestampLocal]], type.Declarable ∧ type.WithinBounds) ∧
    readTypes "struct<a_1:decimal(38,38)>;uniontype<timestamp with local time zone>" =
      .ok [.struct [("a_1", .primitive (.decimal 38 38))],
        .union [.primitive .timestampLocal]] := by
  have separators : ∀ next ∈ [(';', ColumnType.union [.primitive .timestampLocal])],
      next.1 ∈ [',', ':', ';'] := by simp
  have name : Text.IsName "a_1".toList := ⟨'a', ['_', '1'], rfl, by decide, by decide⟩
  have declared : ∀ type ∈ [ColumnType.struct [("a_1", .primitive (.decimal 38 38))],
      .union [.primitive .timestampLocal]], type.Declarable ∧ type.WithinBounds := by
    intro type member
    simp only [List.mem_cons, List.not_mem_nil, or_false] at member
    rcases member with rfl | rfl
    · exact ⟨.struct (by simp) (by simpa using name) (by simpa using .primitive _),
        .struct (by simpa using .primitive ⟨by decide, by decide, by decide⟩)⟩
    · exact ⟨.union (by simp) (by simpa using .primitive _),
        .union (by simpa using .primitive trivial)⟩
  have read := readTypes_joined (.struct [("a_1", .primitive (.decimal 38 38))]) _ separators
  exact ⟨separators, declared, read.2 _ (read.1 declared)⟩

end Properties

end RecordRows
