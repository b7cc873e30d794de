import RecordRows.Proofs.ColumnType.Tokens
/-! Every spelling of a type within bounds is taken as a whole by the reader, in front of anything
that may follow a type. -/

namespace RecordRows.ColumnType

open Text

/-- A reader gives a result and leaves a rest, up to white space in front of it. -/
def Reads {α : Type} (reader : Reader α) (a : α) (cs rest : List Char) : Prop :=
  ∃ left, reader cs = some (a, left) ∧ skipSpace left = skipSpace rest

/-- A text that a reader takes as a whole, behind white space and in front of certain marks. -/
structure Readable {α : Type} (ends : List Char) (reader : Reader α) (a : α) (text : List Char) :
    Prop where
  starts : StartsWord text
  reads : ∀ gap rest, Gap gap → Before ends rest → Reads reader a (gap ++ (text ++ rest)) rest

def typeEnds : List Char := [',', ':', ';', '>']

theorem typeEnds_known : typeEnds ⊆ punctuation := by decide

theorem Readable.mono {α : Type} {ends more : List Char} {reader : Reader α} {a : α}
    {text : List Char} (readable : Readable more reader a text) (included : ends ⊆ more) :
    Readable ends reader a text :=
  ⟨readable.starts, fun gap rest spaces before =>
    readable.reads gap rest spaces (before.mono included)⟩

theorem Readable.skipped {α : Type} {ends : List Char} {reader : Reader α} {a : α}
    {text : List Char} (readable : Readable ends reader a text) {rest : List Char}
    (before : Before ends rest) : Reads reader a (skipSpace (text ++ rest)) rest := by
  rw [readable.starts.skipSpace]
  exact readable.reads [] rest .nil before

/-! Primitive types -/

theorem mark?_word {marks mark cs : List Char} (marked : Marked marks mark)
    (known : marks ⊆ punctuation) (starts : StartsWord cs) (rest : List Char) :
    mark? marks (mark ++ (cs ++ rest)) = some (cs ++ rest) := by
  rw [mark?_marked marked known, starts.skipSpace]

theorem readNumber_marked {n : Nat} {digits marks mark : List Char} (numeral : Numeral n digits)
    (small : n < UInt32.size) (marked : Marked marks mark) (known : marks ⊆ punctuation)
    (rest : List Char) : readNumber (digits ++ (mark ++ rest)) = some (n, mark ++ rest) :=
  readNumber_numeral numeral small
    ((before_of_marked marked (List.Subset.refl marks) known rest).endsWord known)

theorem readLength_complete {n : Nat} {left digits right : List Char} (opened : Marked ['('] left)
    (numeral : Numeral n digits) (small : n < UInt32.size) (closed : Marked [')'] right)
    (rest : List Char) : Reads readLength n (left ++ (digits ++ (right ++ rest))) rest := by
  refine ⟨skipSpace rest, ?_, skipSpace_skipSpace rest⟩
  simp [readLength, mark?_word opened (by decide) (word_of_numeral numeral).startsWord,
    readNumber_marked numeral small closed (by decide), mark?_marked closed (by decide)]

theorem readDecimalParameters_precision {p : Nat} {left digits right : List Char}
    (opened : Marked ['('] left) (numeral : Numeral p digits) (small : p < UInt32.size)
    (closed : Marked [')'] right) (rest : List Char) :
    Reads readDecimalParameters (p, 0) (left ++ (digits ++ (right ++ rest))) rest := by
  refine ⟨skipSpace rest, ?_, skipSpace_skipSpace rest⟩
  have noScale : mark? [','] (right ++ rest) = none :=
    mark?_eq_none (before_of_marked closed (List.Subset.refl [')']) (by decide) rest) (by decide)
  simp [readDecimalParameters, mark?_word opened (by decide) (word_of_numeral numeral).startsWord,
    readNumber_marked numeral small closed (by decide), mark?_marked closed (by decide), noScale,
    defaultDecimal]

theorem readDecimalParameters_scale {p s : Nat} {left digits comma places right : List Char}
    (opened : Marked ['('] left) (precision : Numeral p digits) (precisionSmall : p < UInt32.size)
    (divided : Marked [','] comma) (scale : Numeral s places) (scaleSmall : s < UInt32.size)
    (closed : Marked [')'] right) (rest : List Char) :
    Reads readDecimalParameters (p, s)
      (left ++ (digits ++ (comma ++ (places ++ (right ++ rest))))) rest := by
  refine ⟨skipSpace rest, ?_, skipSpace_skipSpace rest⟩
  simp [readDecimalParameters, mark?_word opened (by decide) (word_of_numeral precision).startsWord,
    readNumber_marked precision precisionSmall divided (by decide),
    mark?_word divided (by decide) (word_of_numeral scale).startsWord,
    readNumber_marked scale scaleSmall closed (by decide), mark?_marked closed (by decide)]

theorem spacedWords_complete (words : List String) {first : String} {text : List Char}
    (spelled : Separated Break Cased (first :: words) text)
    (known : ∀ word ∈ first :: words, Word word.toList) :
    ∃ start more, text = start ++ more ∧ Cased first start ∧ ∀ rest, EndsWord rest →
      EndsWord (more ++ rest) ∧
        words.foldlM (fun cs word => spacedWord? word cs) (more ++ rest) = some rest := by
  induction words generalizing first text with
  | nil =>
    cases spelled with
    | single cased => exact ⟨text, [], by simp, cased, fun rest ends => ⟨ends, rfl⟩⟩
    | cons _ _ tail => cases tail
  | cons word words ih =>
    cases spelled with
    | @cons _ _ start gap more cased divided tail =>
      obtain ⟨next, others, rfl, nextCased, reads⟩ :=
        ih tail (fun word member => known word (List.mem_cons_of_mem _ member))
      refine ⟨start, gap ++ (next ++ others), rfl, cased, ?_⟩
      intro rest ends
      rcases reads rest ends with ⟨ended, read⟩
      rw [List.append_assoc, List.append_assoc]
      refine ⟨endsWord_of_break divided _, ?_⟩
      have spaced := spacedWord?_cased divided nextCased (known word (by simp)) ended
      rw [List.foldlM_cons, spaced]
      exact read

theorem readPrimitive_varchar (cs : List Char) :
    readPrimitive "varchar".toList cs = (readLength cs).map fun (n, left) => (.varchar n, left) :=
  rfl

theorem readPrimitive_char (cs : List Char) :
    readPrimitive "char".toList cs = (readLength cs).map fun (n, left) => (.char n, left) := rfl

theorem readPrimitive_decimal (cs : List Char) : readPrimitive "decimal".toList cs =
    let ((precision, scale), left) := (readDecimalParameters cs).getD (defaultDecimal, cs)
    some (.decimal precision scale, left) := rfl

theorem readPrimitive_plain {p : Primitive} (plain : p.isWord) {rest : List Char}
    (before : Before typeEnds rest) : readPrimitive p.name.toList rest = some (p, rest) := by
  have late : spacedWord? "with" rest = none :=
    spacedWord?_eq_none before typeEnds_known (by decide)
  cases p with
  | varchar | char | decimal | timestampLocal => cases plain
  | timestamp => simp [readPrimitive, Primitive.name, late]
  | _ => rfl

def openings : List String := ["array", "map", "struct", "uniontype"]

theorem plain_name {p : Primitive} (plain : p.isWord) :
    Word p.name.toList ∧ ∀ opening ∈ openings, p.name.toList ≠ opening.toList := by
  cases p with
  | varchar | char | decimal | timestampLocal => cases plain
  | _ => decide

structure ReadsWord (p : Primitive) (text rest : List Char) (word : String) (behind : List Char) :
    Prop where
  taken : takeWord (text ++ rest) = (word.toList, behind)
  scalar : ∀ opening ∈ openings, word.toList ≠ opening.toList
  reads : Reads (readPrimitive word.toList) p behind rest

theorem readsWord_of_cased {p : Primitive} {word : String} {text name behind rest : List Char}
    (cased : Cased word name) (known : Word word.toList)
    (scalar : ∀ opening ∈ openings, word.toList ≠ opening.toList)
    (parts : text ++ rest = name ++ behind) (ends : EndsWord behind)
    (reads : Reads (readPrimitive word.toList) p behind rest) : ReadsWord p text rest word behind :=
  ⟨parts ▸ takeWord_cased cased known ends, scalar, reads⟩

theorem endsWord_of_marked {marks mark : List Char} (marked : Marked marks mark)
    (known : marks ⊆ punctuation) (rest : List Char) : EndsWord (mark ++ rest) :=
  (before_of_marked marked (List.Subset.refl marks) known rest).endsWord known

theorem readsWord_length {word : String} {make : Nat → Primitive}
    (step : ∀ cs, readPrimitive word.toList cs =
      (readLength cs).map fun (n, left) => (make n, left))
    (known : Word word.toList) (scalar : ∀ opening ∈ openings, word.toList ≠ opening.toList)
    {n : Nat} {name left digits right : List Char} (named : Cased word name)
    (opened : Marked ['('] left) (length : Numeral n digits) (small : n < UInt32.size)
    (closed : Marked [')'] right) (rest : List Char) :
    ∃ behind, ReadsWord (make n) (name ++ (left ++ (digits ++ right))) rest word behind := by
  rcases readLength_complete opened length small closed rest with ⟨last, read, same⟩
  have reads : Reads (readPrimitive word.toList) (make n)
      (left ++ (digits ++ (right ++ rest))) rest := by
    refine ⟨last, ?_, same⟩
    rw [step, read, Option.map_some]
  have ends : EndsWord (left ++ (digits ++ (right ++ rest))) :=
    endsWord_of_marked opened (by decide) _
  exact ⟨_, readsWord_of_cased named known scalar (by simp) ends reads⟩

theorem small_of_le {n bound : Nat} (within : n ≤ bound) (small : bound ≤ 65535) :
    n < UInt32.size :=
  Nat.lt_of_le_of_lt (within.trans small) (by decide)

theorem primitive_complete {p : Primitive} {text rest : List Char} (spelled : p.Spells text)
    (within : p.WithinBounds) (before : Before typeEnds rest) :
    ∃ word behind, ReadsWord p text rest word behind := by
  have ended : EndsWord rest := before.endsWord typeEnds_known
  cases spelled with
  | word plain cased =>
    rcases plain_name plain with ⟨known, scalar⟩
    exact ⟨_, rest, readsWord_of_cased cased known scalar rfl ended
      ⟨rest, readPrimitive_plain plain before, rfl⟩⟩
  | integer cased =>
    exact ⟨_, rest, readsWord_of_cased cased (by decide) (by decide) rfl ended ⟨rest, rfl, rfl⟩⟩
  | timestampLocal words =>
    rcases spacedWords_complete _ words (by decide) with ⟨start, more, rfl, cased, read⟩
    rcases read rest ended with ⟨ends, all⟩
    refine ⟨_, more ++ rest, readsWord_of_cased cased (by decide) (by decide)
      (List.append_assoc _ _ _) ends ⟨rest, ?_, rfl⟩⟩
    simp only [readPrimitive, ↓reduceIte, all]
  | varchar named opened length closed =>
    have small := small_of_le within.2 (by decide)
    exact ⟨_, readsWord_length readPrimitive_varchar (by decide) (by decide)
      named opened length small closed rest⟩
  | char named opened length closed =>
    have small := small_of_le within.2 (by decide)
    exact ⟨_, readsWord_length readPrimitive_char (by decide) (by decide) named opened length small
      closed rest⟩
  | decimal named =>
    have bare : readDecimalParameters rest = none := by
      simp [readDecimalParameters, mark?_eq_none before (by decide : ∀ c ∈ typeEnds, c ∉ ['('])]
    refine ⟨_, rest, readsWord_of_cased named (by decide) (by decide) rfl ended ⟨rest, ?_, rfl⟩⟩
    rw [readPrimitive_decimal, bare]
    rfl
  | @decimalPrecision p name left digits right named opened precision closed =>
    have small := small_of_le within.2.1 (by decide)
    obtain ⟨behind, read, same⟩ :=
      readDecimalParameters_precision opened precision small closed rest
    refine ⟨_, left ++ (digits ++ (right ++ rest)), readsWord_of_cased named (by decide) (by decide)
      (by simp) (endsWord_of_marked opened (by decide) _) ⟨behind, ?_, same⟩⟩
    rw [readPrimitive_decimal, read]
    rfl
  | @decimalScale p s name left digits comma places right named opened precision divided scale
      closed =>
    have small := small_of_le within.2.1 (by decide)
    obtain ⟨behind, read, same⟩ := readDecimalParameters_scale opened precision small divided scale
      (Nat.lt_of_le_of_lt within.2.2 small) closed rest
    refine ⟨_, left ++ (digits ++ (comma ++ (places ++ (right ++ rest)))),
      readsWord_of_cased named (by decide) (by decide) (by simp)
        (endsWord_of_marked opened (by decide) _) ⟨behind, ?_, same⟩⟩
    rw [readPrimitive_decimal, read]
    rfl

/-! Lists and brackets -/

section

variable {α : Type} {spells wanted : α → List Char → Prop} {separator : List Char → Prop}

theorem separated_imp {as : List α} {text : List Char} (items : Separated separator spells as text)
    (imp : ∀ a ∈ as, ∀ cs, spells a cs → cs.length ≤ text.length → wanted a cs) :
    Separated separator wanted as text := by
  induction items with
  | @single a cs head => exact .single (imp a List.mem_cons_self cs head (Nat.le_refl _))
  | @cons a as cs mark more head between tail ih =>
    refine .cons (imp a List.mem_cons_self cs head (by simp)) between (ih ?_)
    intro b member ds spelled short
    refine imp b (List.mem_cons_of_mem a member) ds spelled ?_
    simp only [List.length_append]
    omega

theorem separated_length {as : List α} {text : List Char}
    (items : Separated separator spells as text) (solid : ∀ a cs, spells a cs → cs ≠ []) :
    as.length ≤ text.length := by
  induction items with
  | @single a cs head =>
    exact List.length_pos_of_ne_nil (solid a cs head)
  | @cons a as cs mark more head between tail ih =>
    have positive := List.length_pos_of_ne_nil (solid a cs head)
    simp only [List.length_cons, List.length_append]
    omega

end

theorem StartsWord.ne_nil {cs : List Char} (starts : StartsWord cs) : cs ≠ [] := by
  rcases starts with ⟨c, tail, rfl, -⟩
  exact List.cons_ne_nil c tail

section

variable {α : Type} {marks ends : List Char} {item : Reader α}

theorem readMore_complete (known : marks ⊆ punctuation) (apart : ∀ c ∈ ends, c ∉ marks)
    {as : List α} {text : List Char}
    (items : Separated (Marked marks) (Readable (marks ++ ends) item) as text)
    {gap rest : List Char} (spaces : Gap gap) (before : Before ends rest) :
    ∃ a more left last, as = a :: more ∧ item (gap ++ (text ++ rest)) = some (a, left) ∧
      more.length ≤ left.length ∧ skipSpace last = skipSpace rest ∧
      ∀ bound, more.length ≤ bound → readMore (mark? marks) item bound left = (more, last) := by
  induction items generalizing gap with
  | @single a text head =>
    have behind : Before (marks ++ ends) rest := before.mono (List.subset_append_right marks ends)
    rcases head.reads gap rest spaces behind with ⟨left, read, same⟩
    refine ⟨a, [], left, left, rfl, read, Nat.zero_le _, same, ?_⟩
    intro bound _
    cases bound with
    | zero => rfl
    | succ bound =>
      have stop : mark? marks left = none := by
        rw [mark?_congr same, mark?_eq_none before apart]
      rw [readMore, stop, Option.bind_none]
  | @cons a as text mark more head marked tail ih =>
    have behind : Before (marks ++ ends) (mark ++ (more ++ rest)) :=
      before_of_marked marked (List.subset_append_left marks ends) known _
    rcases head.reads gap _ spaces behind with ⟨left, read, same⟩
    rcases ih .nil with ⟨next, others, after, last, rfl, nextRead, short, lastSame, reads⟩
    rw [List.nil_append] at nextRead
    refine ⟨a, next :: others, left, last, rfl, by simpa using read, ?_, lastSame, ?_⟩
    · -- The mark and at least one character of each further item are still there.
      rcases skipSpace_marked marked known (more ++ rest) with ⟨c, trailing, -, -, skipped⟩
      have count := separated_length tail fun a cs readable => readable.starts.ne_nil
      have long : (skipSpace left).length ≤ left.length := List.length_dropWhile_le _ _
      rw [same, skipped] at long
      simp only [List.length_cons, List.length_append] at long count ⊢
      omega
    · intro bound enough
      cases bound with
      | zero => simp at enough
      | succ bound =>
        have starts : StartsWord more := by
          cases tail with
          | single head => exact head.starts
          | cons head _ _ => exact head.starts.append _
        have divided : mark? marks left = some (more ++ rest) := by
          rw [mark?_congr same, mark?_marked marked known, starts.skipSpace]
        rw [readMore, divided, Option.bind_some, nextRead]
        simp only [reads bound (by simpa using enough)]

theorem readSeparated_readable (known : marks ⊆ punctuation) (apart : ∀ c ∈ ends, c ∉ marks)
    {as : List α} {text : List Char}
    (items : Separated (Marked marks) (Readable (marks ++ ends) item) as text) :
    Readable ends (readSeparated (mark? marks) item) as text := by
  refine ⟨?_, ?_⟩
  · cases items with
    | single head => exact head.starts
    | cons head _ _ => exact head.starts.append _
  · intro gap rest spaces before
    obtain ⟨a, more, left, last, rfl, read, short, same, reads⟩ :=
      readMore_complete known apart items spaces before
    refine ⟨last, ?_, same⟩
    simp [readSeparated, read, reads left.length short]

theorem readBracketed_complete {content : Reader α} {a : α} {left text right : List Char}
    (opened : Marked ['<'] left) (readable : Readable ['>'] content a text)
    (closed : Marked ['>'] right) (rest : List Char) :
    Reads (readBracketed content) a (left ++ (text ++ (right ++ rest))) rest := by
  have before : Before ['>'] (right ++ rest) :=
    before_of_marked closed (List.Subset.refl _) (by decide) rest
  rcases readable.skipped before with ⟨behind, read, same⟩
  refine ⟨skipSpace rest, ?_, skipSpace_skipSpace rest⟩
  have finish : mark? ['>'] behind = some (skipSpace rest) := by
    rw [mark?_congr same, mark?_marked closed (by decide)]
  simp [readBracketed, mark?_marked opened (by decide), read, finish]

end

/-! Types -/

theorem startsWord_of_cased {word : String} {name : List Char} (cased : Cased word name)
    (known : Word word.toList) (more : List Char) : StartsWord (name ++ more) :=
  (word_of_cased cased known).startsWord.append more

theorem primitive_startsWord {p : Primitive} {text : List Char} (spelled : p.Spells text) :
    StartsWord text := by
  cases spelled with
  | word plain cased => exact (word_of_cased cased (plain_name plain).1).startsWord
  | integer cased => exact (word_of_cased cased (by decide)).startsWord
  | decimal cased => exact (word_of_cased cased (by decide)).startsWord
  | timestampLocal words =>
    cases words with
    | cons cased _ _ => exact startsWord_of_cased cased (by decide) _
  | varchar named => exact startsWord_of_cased named (by decide) _
  | char named => exact startsWord_of_cased named (by decide) _
  | decimalPrecision named => exact startsWord_of_cased named (by decide) _
  | decimalScale named => exact startsWord_of_cased named (by decide) _

theorem Spells.startsWord {type : ColumnType} {text : List Char} (spelled : Spells type text) :
    StartsWord text := by
  cases spelled with
  | primitive scalar => exact primitive_startsWord scalar
  | array named => exact startsWord_of_cased named (by decide) _
  | map named => exact startsWord_of_cased named (by decide) _
  | struct named => exact startsWord_of_cased named (by decide) _
  | union named => exact startsWord_of_cased named (by decide) _

section

variable {inner : Reader ColumnType}

theorem readEntry_readable {key value : ColumnType} {keyText comma valueText : List Char}
    (keyed : Readable typeEnds inner key keyText) (divided : Marked [','] comma)
    (valued : Readable typeEnds inner value valueText) :
    Readable ['>'] (readEntry inner) (key, value) (keyText ++ (comma ++ valueText)) := by
  refine ⟨keyed.starts.append _, ?_⟩
  intro gap rest spaces before
  obtain ⟨left, keyRead, same⟩ := keyed.reads gap (comma ++ (valueText ++ rest)) spaces
    (before_of_marked divided (by decide) (by decide) _)
  rcases valued.skipped (before.mono (by decide : _ ⊆ typeEnds)) with ⟨last, valueRead, lastSame⟩
  refine ⟨last, ?_, lastSame⟩
  have passed : mark? [','] left = some (skipSpace (valueText ++ rest)) := by
    rw [mark?_congr same, mark?_marked divided (by decide)]
  simp [readEntry, keyRead, passed, valueRead]

theorem readMember_readable {name : String} {type : ColumnType} {colon text : List Char}
    (plain : IsName name.toList) (divided : Marked [':'] colon)
    (typed : Readable typeEnds inner type text) :
    Readable [',', '>'] (readMember inner) (name, type) (name.toList ++ (colon ++ text)) := by
  refine ⟨(word_of_name plain).startsWord.append _, ?_⟩
  intro gap rest spaces before
  rcases typed.skipped (before.mono (by decide : _ ⊆ typeEnds)) with ⟨last, read, same⟩
  refine ⟨last, ?_, same⟩
  have skipped : skipSpace (gap ++ (name.toList ++ (colon ++ (text ++ rest)))) =
      name.toList ++ (colon ++ (text ++ rest)) := by
    rw [skipSpace_gap_append spaces, (word_of_name plain).startsWord.skipSpace]
  have named := readName_name plain (endsWord_of_marked divided (by decide) (text ++ rest))
  simp [readMember, skipped, named, mark?_marked divided (by decide), read]

theorem readBy_array {cs rest : List Char}
    (taken : takeWord (skipSpace cs) = ("array".toList, rest)) :
    readBy inner cs = (readBracketed inner rest).map fun (item, rest) => (.array item, rest) := by
  simp only [readBy, taken]
  rfl

theorem readBy_map {cs rest : List Char}
    (taken : takeWord (skipSpace cs) = ("map".toList, rest)) :
    readBy inner cs = (readBracketed (readEntry inner) rest).map fun (entry, rest) =>
      (.map entry.1 entry.2, rest) := by
  simp only [readBy, taken]
  rfl

theorem readBy_struct {cs rest : List Char}
    (taken : takeWord (skipSpace cs) = ("struct".toList, rest)) :
    readBy inner cs = (readBracketed (readSeparated (mark? [',']) (readMember inner)) rest).map
      fun (members, rest) => (.struct members, rest) := by
  simp only [readBy, taken]
  rfl

theorem readBy_union {cs rest : List Char}
    (taken : takeWord (skipSpace cs) = ("uniontype".toList, rest)) :
    readBy inner cs = (readBracketed (readSeparated (mark? [',']) inner) rest).map
      fun (members, rest) => (.union members, rest) := by
  simp only [readBy, taken]
  rfl

theorem readBy_scalar {cs rest word : List Char} (taken : takeWord (skipSpace cs) = (word, rest))
    (scalar : ∀ opening ∈ openings, word ≠ opening.toList) :
    readBy inner cs = (readPrimitive word rest).map fun (p, rest) => (.primitive p, rest) := by
  simp only [readBy, taken]
  rw [if_neg (scalar "array" (by decide)), if_neg (scalar "map" (by decide)),
    if_neg (scalar "struct" (by decide)), if_neg (scalar "uniontype" (by decide))]

theorem readBy_bracketed {α : Type} {content : Reader α} {word : String}
    (build : α → ColumnType) (step : ∀ cs rest, takeWord (skipSpace cs) = (word.toList, rest) →
      readBy inner cs = (readBracketed content rest).map fun (a, rest) => (build a, rest))
    {a : α} {gap name left text right rest : List Char} (spaces : Gap gap)
    (named : Cased word name) (known : Word word.toList) (opened : Marked ['<'] left)
    (readable : Readable ['>'] content a text) (closed : Marked ['>'] right) :
    Reads (readBy inner) (build a) (gap ++ (name ++ (left ++ (text ++ right)) ++ rest)) rest := by
  rcases readBracketed_complete opened readable closed rest with ⟨last, read, same⟩
  refine ⟨last, ?_, same⟩
  have taken : takeWord (skipSpace (gap ++ (name ++ (left ++ (text ++ (right ++ rest)))))) =
      (word.toList, left ++ (text ++ (right ++ rest))) := by
    rw [skipSpace_gap_append spaces, (word_of_cased named known).startsWord.skipSpace]
    exact takeWord_cased named known (endsWord_of_marked opened (by decide) _)
  simp only [List.append_assoc]
  rw [step _ _ taken, read, Option.map_some]

theorem readBy_readable {bound : Nat} (complete : ∀ type text, Spells type text →
      WithinBounds type → text.length ≤ bound → Readable typeEnds inner type text)
    {type : ColumnType} {text : List Char} (spelled : Spells type text)
    (within : WithinBounds type) (short : text.length ≤ bound + 1) :
    Readable typeEnds (readBy inner) type text := by
  -- Types inside a type are shorter than the type, so that their reader may be one level less.
  refine ⟨spelled.startsWord, ?_⟩
  intro gap rest spaces before
  cases spelled with
  | primitive scalar =>
    cases within with
    | primitive inside =>
    rcases primitive_complete scalar inside before with ⟨word, behind, reads⟩
    rcases reads.reads with ⟨last, read, same⟩
    refine ⟨last, ?_, same⟩
    have taken : takeWord (skipSpace (gap ++ (text ++ rest))) = (word.toList, behind) := by
      rw [skipSpace_gap_append spaces, (Spells.primitive scalar).startsWord.skipSpace, reads.taken]
    rw [readBy_scalar taken reads.scalar, read, Option.map_some]
  | @array item name left cs right named opened content closed =>
    cases within with
    | array inside =>
    have nameLong := length_pos_of_cased named (by decide)
    have readable : Readable typeEnds inner item cs :=
      complete item cs content inside (by simp only [List.length_append] at short; omega)
    exact readBy_bracketed .array (fun _ _ => readBy_array) spaces named (by decide) opened
      (readable.mono (by decide)) closed
  | @map key value name left cs comma ds right named opened keyed divided valued closed =>
    cases within with
    | map keyInside valueInside =>
    have nameLong := length_pos_of_cased named (by decide)
    simp only [List.length_append] at short
    have keyReadable := complete key cs keyed keyInside (by omega)
    have valueReadable := complete value ds valued valueInside (by omega)
    exact readBy_bracketed (fun entry => .map entry.1 entry.2) (fun _ _ => readBy_map)
      spaces named (by decide) opened (readEntry_readable keyReadable divided valueReadable) closed
  | @struct members name left cs right named opened content closed =>
    cases within with
    | struct inside =>
    have nameLong := length_pos_of_cased named (by decide)
    have items :
        Separated (Marked [',']) (Readable ([','] ++ ['>']) (readMember inner)) members cs := by
      refine separated_imp content ?_
      intro member found text spelled shorter
      cases spelled with
      | @named name type colon ds plain divided typed =>
      simp only [List.length_append] at short shorter
      exact readMember_readable plain divided (complete type ds typed (inside _ found) (by omega))
    exact readBy_bracketed .struct (fun _ _ => readBy_struct) spaces named (by decide)
      opened (readSeparated_readable (by decide) (by decide) items) closed
  | @union members name left cs right named opened content closed =>
    cases within with
    | union inside =>
    have nameLong := length_pos_of_cased named (by decide)
    have items : Separated (Marked [',']) (Readable ([','] ++ ['>']) inner) members cs := by
      refine separated_imp content ?_
      intro member found text spelled shorter
      simp only [List.length_append] at short
      exact (complete member text spelled (inside member found) (by omega)).mono (by decide)
    exact readBy_bracketed .union (fun _ _ => readBy_union) spaces named (by decide)
      opened (readSeparated_readable (by decide) (by decide) items) closed

end

theorem readWithin_readable (depth : Nat) {type : ColumnType} {text : List Char}
    (spelled : Spells type text) (within : WithinBounds type) (short : text.length ≤ depth) :
    Readable typeEnds (readWithin depth) type text := by
  induction depth generalizing type text with
  | zero =>
    have empty : text = [] := List.length_eq_zero_iff.mp (Nat.le_zero.mp short)
    exact absurd empty spelled.startsWord.ne_nil
  | succ depth ih =>
    exact readBy_readable (fun _ _ spelled within short => ih spelled within short) spelled within
      short

theorem read_readable {type : ColumnType} {text : List Char} (spelled : Spells type text)
    (within : WithinBounds type) : Readable typeEnds read type text := by
  refine ⟨spelled.startsWord, ?_⟩
  intro gap rest spaces before
  have short : text.length ≤ (gap ++ (text ++ rest)).length := by
    simp only [List.length_append]
    omega
  exact (readWithin_readable _ spelled within short).reads gap rest spaces before

end RecordRows.ColumnType
