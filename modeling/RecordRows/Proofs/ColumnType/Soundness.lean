import RecordRows.Proofs.ColumnType.Tokens
/-! What the readers of column types take off a text spells the type that they give. -/

namespace RecordRows.ColumnType

open Text

/-- What a reader takes off the front of a text is a spelling of its result. -/
def Sound {α : Type} (reader : Reader α) (spells : α → List Char → Prop) : Prop :=
  ∀ cs a rest, reader cs = some (a, rest) → ∃ taken, spells a taken ∧ cs = taken ++ rest

def Padded {α : Type} (spells : α → List Char → Prop) (a : α) (cs : List Char) : Prop :=
  ∃ gap taken, Gap gap ∧ spells a taken ∧ cs = gap ++ taken

theorem Sound.of_map {α β : Type} {reader : Reader α} {spells : α → List Char → Prop}
    (sound : Sound reader spells) (wrap : α → β) {cs rest : List Char} {b : β}
    (found : (reader cs).map (fun (a, rest) => (wrap a, rest)) = some (b, rest)) :
    ∃ a taken, wrap a = b ∧ spells a taken ∧ cs = taken ++ rest := by
  rcases Option.map_eq_some_iff.mp found with ⟨⟨a, behind⟩, read, given⟩
  cases given
  rcases sound cs a rest read with ⟨taken, spelled, parts⟩
  exact ⟨a, taken, rfl, spelled, parts⟩

theorem marked_gap {marks mark gap : List Char} (marked : Marked marks mark) (spaces : Gap gap) :
    Marked marks (mark ++ gap) := by
  rcases marked with ⟨before, c, after, leading, member, trailing, rfl⟩
  exact ⟨before, c, after ++ gap, leading, member, trailing.append spaces, by simp⟩

/-! Primitive types -/

theorem readLength_sound : Sound readLength fun n cs =>
    ∃ left digits right, Marked ['('] left ∧ Numeral n digits ∧ Marked [')'] right ∧
      cs = left ++ (digits ++ right) := by
  intro cs n rest found
  simp only [readLength, Option.bind_eq_bind, Option.bind_eq_some_iff, Option.pure_def,
    Option.some.injEq, Prod.mk.injEq, Prod.exists] at found
  rcases found with ⟨inside, opened, n, behind, number, rest, closed, rfl, rfl⟩
  rcases mark?_sound opened with ⟨left, leftMarked, rfl⟩
  rcases readNumber_sound number with ⟨digits, numeral, rfl⟩
  rcases mark?_sound closed with ⟨right, rightMarked, rfl⟩
  exact ⟨left ++ (digits ++ right), ⟨left, digits, right, leftMarked, numeral, rightMarked, rfl⟩,
    by simp⟩

theorem readDecimalParameters_sound : Sound readDecimalParameters fun parameters cs =>
    ∀ name, Cased "decimal" name →
      Primitive.Spells (.decimal parameters.1 parameters.2) (name ++ cs) := by
  intro cs parameters rest found
  simp only [readDecimalParameters, Option.bind_eq_bind, Option.bind_eq_some_iff, Option.pure_def,
    Option.some.injEq, Prod.exists] at found
  rcases found with ⟨inside, opened, precision, behind, number, rest, closed, same⟩
  rcases mark?_sound opened with ⟨left, leftMarked, rfl⟩
  rcases readNumber_sound number with ⟨digits, numeral, rfl⟩
  rcases mark?_sound closed with ⟨right, rightMarked, closing⟩
  cases same
  cases scaled : (mark? [','] behind).bind readNumber with
  | none =>
    rw [scaled, Option.getD_none] at closing
    subst closing
    refine ⟨left ++ (digits ++ right), ?_, by simp⟩
    intro name named
    exact .decimalPrecision named leftMarked numeral rightMarked
  | some found =>
    rcases found with ⟨scale, more⟩
    rw [scaled, Option.getD_some] at closing
    rcases Option.bind_eq_some_iff.mp scaled with ⟨start, divided, scaleNumber⟩
    rcases mark?_sound divided with ⟨comma, commaMarked, rfl⟩
    rcases readNumber_sound scaleNumber with ⟨places, placesNumeral, rfl⟩
    subst closing
    refine ⟨left ++ (digits ++ (comma ++ (places ++ right))), ?_, by simp⟩
    intro name named
    exact .decimalScale named leftMarked numeral commaMarked placesNumeral rightMarked

theorem spacedWords_sound (words : List String) {cs rest : List Char}
    (found : words.foldlM (fun cs word => spacedWord? word cs) cs = some rest) :
    ∃ taken, cs = taken ++ rest ∧ ∀ first start, Cased first start →
      Separated Break Cased (first :: words) (start ++ taken) := by
  induction words generalizing cs with
  | nil =>
    obtain rfl : cs = rest := by simpa using found
    refine ⟨[], rfl, ?_⟩
    intro first start cased
    rw [List.append_nil]
    exact .single cased
  | cons word words ih =>
    rw [List.foldlM_cons] at found
    rcases Option.bind_eq_some_iff.mp found with ⟨behind, spaced, more⟩
    rcases spacedWord?_sound spaced with ⟨gap, taken, divided, cased, rfl⟩
    rcases ih more with ⟨others, rfl, chained⟩
    refine ⟨gap ++ (taken ++ others), by simp, ?_⟩
    intro first start begun
    exact .cons begun divided (chained word taken cased)

theorem plainWords_spells {word cs : List Char} {p : Primitive}
    (found : plainWords.lookup word = some p) (cased : asciiLower cs = word) : p.Spells cs := by
  rcases List.lookup_eq_some_iff.mp found with ⟨before, after, parts, -⟩
  have member : (word, p) ∈ plainWords := by simp [parts]
  have table : ∀ entry ∈ plainWords, (entry.2.isWord ∧ entry.1 = entry.2.name.toList) ∨
      (entry.1 = "integer".toList ∧ entry.2 = .int) := by
    decide
  rcases table _ member with ⟨plain, same⟩ | ⟨same, rfl⟩
  · exact .word plain (cased.trans same)
  · exact .integer (cased.trans same)

theorem readPrimitive_sound {word name cs rest : List Char} {p : Primitive}
    (cased : asciiLower name = word) (found : readPrimitive word cs = some (p, rest)) :
    ∃ taken, p.Spells (name ++ taken) ∧ cs = taken ++ rest := by
  rw [readPrimitive] at found
  split at found
  · next same =>
    have named : Cased "timestamp" name := cased.trans same
    split at found
    · next behind spaced =>
      rcases spacedWords_sound _ spaced with ⟨taken, parts, chained⟩
      cases found
      exact ⟨taken, .timestampLocal (chained _ _ named), parts⟩
    · cases found
      refine ⟨[], ?_, rfl⟩
      rw [List.append_nil]
      exact .word rfl named
  split at found
  · next same =>
    rcases readLength_sound.of_map Primitive.varchar found with ⟨n, taken, rfl, length, parts⟩
    rcases length with ⟨left, digits, right, opened, numeral, closed, rfl⟩
    exact ⟨_, .varchar (cased.trans same) opened numeral closed, parts⟩
  split at found
  · next same =>
    rcases readLength_sound.of_map Primitive.char found with ⟨n, taken, rfl, length, parts⟩
    rcases length with ⟨left, digits, right, opened, numeral, closed, rfl⟩
    exact ⟨_, .char (cased.trans same) opened numeral closed, parts⟩
  split at found
  · next same =>
    have named : Cased "decimal" name := cased.trans same
    cases parameters : readDecimalParameters cs with
    | none =>
      rw [parameters] at found
      cases found
      exact ⟨[], by simpa using .decimal named, rfl⟩
    | some given =>
      rw [parameters] at found
      cases found
      rcases readDecimalParameters_sound _ _ _ parameters with ⟨taken, spelled, parts⟩
      exact ⟨taken, spelled name named, parts⟩
  · rcases Option.map_eq_some_iff.mp found with ⟨found, looked, given⟩
    cases given
    exact ⟨[], plainWords_spells looked (by simpa using cased), rfl⟩

/-! Lists and brackets -/

theorem readMore_sound {α : Type} {marks : List Char} {item : Reader α}
    {spells : α → List Char → Prop} (sound : Sound item (Padded spells)) (bound : Nat)
    {cs rest : List Char} {as : List α}
    (found : readMore (mark? marks) item bound cs = (as, rest)) :
    ∃ taken, cs = taken ++ rest ∧ ∀ a start, spells a start →
      Separated (Marked marks) spells (a :: as) (start ++ taken) := by
  induction bound generalizing cs as with
  | zero =>
    cases found
    refine ⟨[], rfl, ?_⟩
    intro a start spelled
    rw [List.append_nil]
    exact .single spelled
  | succ bound ih =>
    rw [readMore] at found
    split at found
    · cases found
      refine ⟨[], rfl, ?_⟩
      intro a start spelled
      rw [List.append_nil]
      exact .single spelled
    · next next behind one =>
      cases found
      rcases Option.bind_eq_some_iff.mp one with ⟨start, divided, read⟩
      rcases mark?_sound divided with ⟨mark, marked, rfl⟩
      rcases sound _ _ _ read with ⟨taken, ⟨gap, text, spaces, spelled, rfl⟩, rfl⟩
      rcases @ih behind _ rfl with ⟨others, parts, chained⟩
      refine ⟨(mark ++ gap) ++ (text ++ others), by simp only [List.append_assoc, ← parts], ?_⟩
      intro a start begun
      exact .cons begun (marked_gap marked spaces) (chained next text spelled)

theorem readSeparated_sound {α : Type} {marks : List Char} {item : Reader α}
    {spells : α → List Char → Prop} (sound : Sound item (Padded spells)) :
    Sound (readSeparated (mark? marks) item) (Padded (Separated (Marked marks) spells)) := by
  intro cs as rest found
  simp only [readSeparated, Option.bind_eq_bind, Option.bind_eq_some_iff, Option.pure_def,
    Option.some.injEq, Prod.mk.injEq, Prod.exists] at found
  rcases found with ⟨a, behind, first, rfl, rfl⟩
  rcases sound _ _ _ first with ⟨taken, ⟨gap, text, spaces, spelled, rfl⟩, rfl⟩
  rcases @readMore_sound α marks _ _ sound behind.length behind _ _ rfl with
      ⟨others, parts, chained⟩
  exact ⟨gap ++ (text ++ others), ⟨gap, _, spaces, chained a text spelled, rfl⟩,
    by simp only [List.append_assoc, ← parts]⟩

theorem readBracketed_sound {α : Type} {content : Reader α} {spells : α → List Char → Prop}
    (sound : Sound content (Padded spells)) : Sound (readBracketed content) fun a cs =>
      ∃ left text right, Marked ['<'] left ∧ spells a text ∧ Marked ['>'] right ∧
        cs = left ++ (text ++ right) := by
  intro cs a rest found
  simp only [readBracketed, Option.bind_eq_bind, Option.bind_eq_some_iff, Option.pure_def,
    Option.some.injEq, Prod.mk.injEq, Prod.exists] at found
  rcases found with ⟨inside, opened, a, behind, read, rest, closed, rfl, rfl⟩
  rcases mark?_sound opened with ⟨left, leftMarked, rfl⟩
  rcases sound _ _ _ read with ⟨taken, ⟨gap, text, spaces, spelled, rfl⟩, rfl⟩
  rcases mark?_sound closed with ⟨right, rightMarked, rfl⟩
  exact ⟨(left ++ gap) ++ (text ++ right),
    ⟨_, text, right, marked_gap leftMarked spaces, spelled, rightMarked, rfl⟩, by simp⟩

/-! Types -/

section

variable {inner : Reader ColumnType} (sound : Sound inner (Padded Spells))

include sound

theorem readEntry_sound : Sound (readEntry inner) (Padded fun entry cs =>
    ∃ keyText comma valueText, Spells entry.1 keyText ∧ Marked [','] comma ∧
      Spells entry.2 valueText ∧ cs = keyText ++ (comma ++ valueText)) := by
  intro cs entry rest found
  simp only [readEntry, Option.bind_eq_bind, Option.bind_eq_some_iff, Option.pure_def,
    Option.some.injEq, Prod.mk.injEq, Prod.exists] at found
  rcases found with ⟨key, behind, keyRead, inside, divided, value, rest, valueRead, rfl, rfl⟩
  rcases sound _ _ _ keyRead with ⟨taken, ⟨gap, keyText, spaces, keySpelled, rfl⟩, rfl⟩
  rcases mark?_sound divided with ⟨comma, commaMarked, rfl⟩
  rcases sound _ _ _ valueRead with ⟨taken, ⟨inset, valueText, insetSpaces, valueSpelled, rfl⟩, rfl⟩
  exact ⟨gap ++ (keyText ++ ((comma ++ inset) ++ valueText)), ⟨gap, _, spaces,
    ⟨keyText, _, valueText, keySpelled, marked_gap commaMarked insetSpaces, valueSpelled, rfl⟩,
    rfl⟩, by simp⟩

theorem readMember_sound : Sound (readMember inner) (Padded MemberSpells) := by
  intro cs member rest found
  simp only [readMember, Option.bind_eq_bind, Option.bind_eq_some_iff, Option.pure_def,
    Option.some.injEq, Prod.mk.injEq, Prod.exists] at found
  rcases found with ⟨name, behind, nameRead, inside, divided, type, rest, typeRead, rfl, rfl⟩
  rcases exists_gap cs with ⟨gap, spaces, parts⟩
  rcases readName_sound nameRead with ⟨plain, named⟩
  rcases mark?_sound divided with ⟨colon, colonMarked, rfl⟩
  rcases sound _ _ _ typeRead with ⟨taken, ⟨inset, text, insetSpaces, spelled, rfl⟩, rfl⟩
  exact ⟨gap ++ (name.toList ++ ((colon ++ inset) ++ text)), ⟨gap, _, spaces,
    .named plain (marked_gap colonMarked insetSpaces) spelled, rfl⟩, by rw [parts, named]; simp⟩

/-- One level of a type: the word in front decides what follows it. -/
theorem readBy_sound : Sound (readBy inner) (Padded Spells) := by
  intro cs type rest found
  rcases exists_gap cs with ⟨gap, spaces, parts⟩
  rcases takeWord_sound (skipSpace cs) with ⟨name, cased, named⟩
  -- It is enough that the rest behind the word completes a spelling.
  suffices completed : ∃ taken, Spells type (name ++ taken) ∧
      (takeWord (skipSpace cs)).2 = taken ++ rest by
    rcases completed with ⟨taken, spelled, behind⟩
    refine ⟨gap ++ (name ++ taken), ⟨gap, _, spaces, spelled, rfl⟩, ?_⟩
    rw [List.append_assoc, List.append_assoc, ← behind, ← named, ← parts]
  simp only [readBy] at found
  split at found
  · next same =>
    rcases (readBracketed_sound sound).of_map array found with
      ⟨item, taken, rfl, bracketed, parts⟩
    rcases bracketed with ⟨left, text, right, opened, spelled, closed, rfl⟩
    exact ⟨_, .array (cased.trans same) opened spelled closed, parts⟩
  split at found
  · next same =>
    rcases (readBracketed_sound (readEntry_sound sound)).of_map
        (fun entry => map entry.1 entry.2) found with ⟨entry, taken, rfl, bracketed, parts⟩
    rcases bracketed with ⟨left, text, right, opened, spelled, closed, rfl⟩
    rcases spelled with ⟨keyText, comma, valueText, keyed, divided, valued, rfl⟩
    exact ⟨_, .map (cased.trans same) opened keyed divided valued closed, parts⟩
  split at found
  · next same =>
    have member := readMember_sound sound
    rcases (readBracketed_sound (readSeparated_sound member)).of_map struct found with
      ⟨members, taken, rfl, bracketed, parts⟩
    rcases bracketed with ⟨left, text, right, opened, spelled, closed, rfl⟩
    exact ⟨_, .struct (cased.trans same) opened spelled closed, parts⟩
  split at found
  · next same =>
    rcases (readBracketed_sound (readSeparated_sound sound)).of_map union found with
      ⟨members, taken, rfl, bracketed, parts⟩
    rcases bracketed with ⟨left, text, right, opened, spelled, closed, rfl⟩
    exact ⟨_, .union (cased.trans same) opened spelled closed, parts⟩
  · rcases Option.map_eq_some_iff.mp found with ⟨⟨p, behind⟩, scalar, given⟩
    cases given
    rcases readPrimitive_sound cased scalar with ⟨taken, spelled, parts⟩
    exact ⟨taken, .primitive spelled, parts⟩

end

theorem readWithin_sound (depth : Nat) : Sound (readWithin depth) (Padded Spells) := by
  induction depth with
  | zero =>
    intro cs type rest found
    cases found
  | succ depth ih => exact readBy_sound ih

theorem read_sound : Sound read (Padded Spells) :=
  fun cs => readWithin_sound cs.length cs

end RecordRows.ColumnType
