import Mathlib.Data.List.DropRight
import Mathlib.Data.List.Basic
import RecordRows.Proofs.ColumnType.Grammar
import RecordRows.Proofs.Text.Runs
/-! The tokens of column types. Each reader of a token is related to the notation in both
directions: what it takes spells the token, and a spelling in front of a rest that cannot extend it
is taken as a whole. -/

namespace RecordRows

namespace Text

theorem Gap.nil : Gap [] := by
  intro c member
  cases member

theorem Gap.append {cs ds : List Char} (first : Gap cs) (second : Gap ds) : Gap (cs ++ ds) := by
  intro c member
  rcases List.mem_append.mp member with member | member
  · exact first c member
  · exact second c member

theorem skipSpace_gap_append {gap : List Char} (spaces : Gap gap) (cs : List Char) :
    skipSpace (gap ++ cs) = skipSpace cs :=
  List.dropWhile_append_of_pos spaces

theorem skipSpace_skipSpace (cs : List Char) : skipSpace (skipSpace cs) = skipSpace cs :=
  List.dropWhile_idempotent isSpace cs

theorem skipSpace_cons {c : Char} (solid : isSpace c = false) (cs : List Char) :
    skipSpace (c :: cs) = c :: cs :=
  List.dropWhile_cons_of_neg (by simp [solid])

theorem exists_gap (cs : List Char) : ∃ gap, Gap gap ∧ cs = gap ++ skipSpace cs := by
  refine ⟨cs.takeWhile isSpace, ?_, List.takeWhile_append_dropWhile.symm⟩
  intro c member
  exact List.mem_takeWhile_imp member

end Text

namespace ColumnType

open Text

def punctuation : List Char := ['<', '>', '(', ')', ',', ':', ';']

theorem solid_of_punctuation {c : Char} (mark : c ∈ punctuation) : isSpace c = false := by
  revert c
  decide

theorem not_word_of_punctuation {c : Char} (mark : c ∈ punctuation) : isWordChar c = false := by
  revert c
  decide

theorem not_word_of_space {c : Char} (space : isSpace c) : isWordChar c = false := by
  have spaces : c = ' ' ∨ c = '\t' ∨ c = '\r' ∨ c = '\n' := by
    simpa [isSpace, or_assoc] using space
  rcases spaces with rfl | rfl | rfl | rfl <;> decide

theorem solid_of_word {c : Char} (word : isWordChar c) : isSpace c = false := by
  by_contra space
  rw [Bool.not_eq_false] at space
  exact absurd word (by simp [not_word_of_space space])

def Before (marks rest : List Char) : Prop := ∀ c, (skipSpace rest).head? = some c → c ∈ marks

def EndsWord (rest : List Char) : Prop := ∀ c, rest.head? = some c → isWordChar c = false

theorem Before.mono {marks more rest : List Char} (before : Before marks rest)
    (included : marks ⊆ more) : Before more rest :=
  fun c found => included (before c found)

theorem Before.endsWord {marks rest : List Char} (before : Before marks rest)
    (known : marks ⊆ punctuation) : EndsWord rest := by
  intro c found
  rcases List.head?_eq_some_iff.mp found with ⟨tail, rfl⟩
  by_cases space : isSpace c
  · exact not_word_of_space space
  · have skipped : skipSpace (c :: tail) = c :: tail := skipSpace_cons (by simpa using space) tail
    exact not_word_of_punctuation (known (before c (by rw [skipped, List.head?_cons])))

theorem endsWord_of_break {gap : List Char} (divided : Break gap) (rest : List Char) :
    EndsWord (gap ++ rest) := by
  rcases divided with ⟨spaces, nonempty⟩
  rcases List.exists_cons_of_ne_nil nonempty with ⟨space, tail, rfl⟩
  intro c found
  obtain rfl : space = c := by simpa using found
  exact not_word_of_space (spaces space List.mem_cons_self)

/-! Marks -/

theorem skipSpace_marked {marks mark : List Char} (marked : Marked marks mark)
    (known : marks ⊆ punctuation) (rest : List Char) :
    ∃ c after, c ∈ marks ∧ Gap after ∧ skipSpace (mark ++ rest) = c :: (after ++ rest) := by
  rcases marked with ⟨before, c, after, leading, member, trailing, rfl⟩
  refine ⟨c, after, member, trailing, ?_⟩
  rw [List.append_assoc, skipSpace_gap_append leading, List.cons_append,
    skipSpace_cons (solid_of_punctuation (known member))]

theorem before_of_marked {marks more mark : List Char} (marked : Marked marks mark)
    (included : marks ⊆ more) (known : marks ⊆ punctuation) (rest : List Char) :
    Before more (mark ++ rest) := by
  intro c found
  rcases skipSpace_marked marked known rest with ⟨c, after, member, -, skipped⟩
  rw [skipped, List.head?_cons, Option.some.injEq] at found
  exact included (found ▸ member)

theorem mark?_congr {cs ds : List Char} (same : skipSpace cs = skipSpace ds) (marks : List Char) :
    mark? marks cs = mark? marks ds := by
  rw [mark?, mark?, same]

theorem mark?_sound {marks cs rest : List Char} (found : mark? marks cs = some rest) :
    ∃ mark, Marked marks mark ∧ cs = mark ++ rest := by
  rcases exists_gap cs with ⟨before, leading, parts⟩
  rw [mark?] at found
  split at found
  · next c tail skipped =>
    split at found
    · next member =>
      rcases exists_gap tail with ⟨after, trailing, tailParts⟩
      rw [Option.some.injEq] at found
      refine ⟨before ++ c :: after, ⟨before, c, after, leading, member, trailing, rfl⟩, ?_⟩
      rw [parts, skipped, List.append_assoc, List.cons_append, ← found, ← tailParts]
    · cases found
  · cases found

theorem mark?_marked {marks mark : List Char} (marked : Marked marks mark)
    (known : marks ⊆ punctuation) (rest : List Char) :
    mark? marks (mark ++ rest) = some (skipSpace rest) := by
  rcases skipSpace_marked marked known rest with ⟨c, after, member, trailing, skipped⟩
  simp only [mark?, skipped]
  rw [if_pos member, skipSpace_gap_append trailing]

theorem mark?_eq_none {marks ends rest : List Char} (before : Before ends rest)
    (apart : ∀ c ∈ ends, c ∉ marks) : mark? marks rest = none := by
  rw [mark?]
  split
  · next c tail skipped =>
    rw [if_neg (apart c (before c (by rw [skipped, List.head?_cons])))]
  · rfl

/-! Words -/

def Word (cs : List Char) : Prop := cs ≠ [] ∧ ∀ c ∈ cs, isWordChar c

instance (cs : List Char) : Decidable (Word cs) := inferInstanceAs (Decidable (_ ∧ _))

def StartsWord (cs : List Char) : Prop := ∃ c tail, cs = c :: tail ∧ isWordChar c

theorem StartsWord.skipSpace {cs : List Char} (starts : StartsWord cs) (rest : List Char) :
    skipSpace (cs ++ rest) = cs ++ rest := by
  rcases starts with ⟨c, tail, rfl, word⟩
  exact skipSpace_cons (solid_of_word word) (tail ++ rest)

theorem StartsWord.append {cs : List Char} (starts : StartsWord cs) (rest : List Char) :
    StartsWord (cs ++ rest) := by
  rcases starts with ⟨c, tail, rfl, word⟩
  exact ⟨c, tail ++ rest, rfl, word⟩

theorem Word.startsWord {cs : List Char} (word : Word cs) : StartsWord cs := by
  rcases word with ⟨nonempty, all⟩
  rcases List.exists_cons_of_ne_nil nonempty with ⟨c, tail, rfl⟩
  exact ⟨c, tail, rfl, all c List.mem_cons_self⟩

theorem Word.taken {cs rest : List Char} (word : Word cs) (ends : EndsWord rest) :
    (cs ++ rest).takeWhile isWordChar = cs ∧ (cs ++ rest).dropWhile isWordChar = rest :=
  ⟨takeWhile_run word.2 ends, dropWhile_run word.2 ends⟩

theorem isWordChar_of_toLower {c : Char} (word : isWordChar c.toLower) : isWordChar c := by
  by_cases upper : c.isUpper
  · have alphanum : c.isAlphanum := alphanum_iff.mpr (.inl upper)
    simp [isWordChar, alphanum]
  · rwa [toLower_of_not_upper upper] at word

theorem word_of_cased {word : String} {cs : List Char} (cased : Cased word cs)
    (known : Word word.toList) : Word cs := by
  constructor
  · intro empty
    subst empty
    exact known.1 cased.symm
  · intro c member
    apply isWordChar_of_toLower
    apply known.2
    rw [← cased]
    exact List.mem_map_of_mem member

theorem length_pos_of_cased {word : String} {cs : List Char} (cased : Cased word cs)
    (known : Word word.toList) : 0 < cs.length :=
  List.length_pos_of_ne_nil (word_of_cased cased known).1

theorem takeWord_cased {word : String} {cs rest : List Char} (cased : Cased word cs)
    (known : Word word.toList) (ends : EndsWord rest) :
    takeWord (cs ++ rest) = (word.toList, rest) := by
  rcases (word_of_cased cased known).taken ends with ⟨taken, left⟩
  rw [takeWord, taken, left, cased]

theorem takeWord_sound (cs : List Char) :
    ∃ taken, asciiLower taken = (takeWord cs).1 ∧ cs = taken ++ (takeWord cs).2 :=
  ⟨cs.takeWhile isWordChar, rfl, List.takeWhile_append_dropWhile.symm⟩

theorem spacedWord?_sound {word : String} {cs rest : List Char}
    (found : spacedWord? word cs = some rest) :
    ∃ gap taken, Break gap ∧ Cased word taken ∧ cs = gap ++ (taken ++ rest) := by
  rcases takeWord_sound (skipSpace cs) with ⟨taken, cased, wordParts⟩
  simp only [spacedWord?, Bool.and_eq_true, decide_eq_true_eq, Option.ite_none_right_eq_some,
    Option.some.injEq] at found
  rcases found with ⟨⟨space, same⟩, rfl⟩
  cases cs with
  | nil => simp at space
  | cons c tail =>
    rw [List.head?_cons, Option.any_some] at space
    rcases exists_gap tail with ⟨gap, spaces, parts⟩
    have skipped : skipSpace (c :: tail) = skipSpace tail := List.dropWhile_cons_of_pos space
    have leading : Gap (c :: gap) := by
      intro d member
      rcases List.mem_cons.mp member with rfl | member
      · exact space
      · exact spaces d member
    refine ⟨c :: gap, taken, ⟨leading, List.cons_ne_nil c gap⟩, cased.trans same, ?_⟩
    rw [← wordParts, skipped, List.cons_append, ← parts]

theorem spacedWord?_cased {word : String} {gap cs rest : List Char} (divided : Break gap)
    (cased : Cased word cs) (known : Word word.toList) (ends : EndsWord rest) :
    spacedWord? word (gap ++ (cs ++ rest)) = some rest := by
  have skipped : skipSpace (gap ++ (cs ++ rest)) = cs ++ rest := by
    rw [skipSpace_gap_append divided.1, (word_of_cased cased known).startsWord.skipSpace]
  rcases divided with ⟨spaces, nonempty⟩
  rcases List.exists_cons_of_ne_nil nonempty with ⟨space, tail, rfl⟩
  simp only [spacedWord?, skipped, takeWord_cased cased known ends]
  simp [spaces space List.mem_cons_self]

theorem spacedWord?_eq_none {word : String} {marks rest : List Char} (before : Before marks rest)
    (marksKnown : marks ⊆ punctuation) (known : Word word.toList) :
    spacedWord? word rest = none := by
  have empty : (takeWord (skipSpace rest)).1 = [] := by
    cases skipped : skipSpace rest with
    | nil => rfl
    | cons c tail =>
      have mark := marksKnown (before c (by rw [skipped, List.head?_cons]))
      simp [takeWord, not_word_of_punctuation mark, asciiLower]
  simp [spacedWord?, empty, known.1.symm]

/-! Numbers and names -/

theorem word_of_digit {c : Char} (digit : c.isDigit) : isWordChar c := by
  have alphanum : c.isAlphanum := alphanum_iff.mpr (.inr (.inr digit))
  simp [isWordChar, alphanum]

theorem word_of_start {c : Char} (start : c.isAlpha ∨ c = '_') : isWordChar c := by
  rcases start with alpha | rfl
  · have alphanum : c.isAlphanum := Bool.or_eq_true_iff.mpr (.inl alpha)
    simp [isWordChar, alphanum]
  · rfl

theorem word_of_numeral {n : Nat} {digits : List Char} (numeral : Numeral n digits) : Word digits :=
  ⟨numeral.1, fun c member => word_of_digit (numeral.2.1 c member)⟩

theorem word_of_name {name : List Char} (plain : IsName name) : Word name := by
  rcases plain with ⟨first, rest, rfl, start, body⟩
  refine ⟨List.cons_ne_nil first rest, ?_⟩
  intro c member
  rcases List.mem_cons.mp member with rfl | member
  · exact word_of_start start
  · simpa [isWordChar] using body c member

theorem readNumber_sound {cs rest : List Char} {n : Nat} (found : readNumber cs = some (n, rest)) :
    ∃ digits, Numeral n digits ∧ cs = digits ++ rest := by
  simp only [readNumber, takeDigits, Option.bind_eq_some_iff, Option.ite_none_left_eq_some,
    Option.ite_none_right_eq_some, Option.some.injEq, Prod.mk.injEq, Prod.exists] at found
  rcases found with ⟨digits, left, ⟨nonempty, rfl, rfl⟩, small, rfl, rfl⟩
  refine ⟨cs.takeWhile Char.isDigit, ⟨by simpa using nonempty, ?_, rfl⟩,
    List.takeWhile_append_dropWhile.symm⟩
  intro c member
  exact List.mem_takeWhile_imp member

theorem readNumber_numeral {n : Nat} {digits rest : List Char} (numeral : Numeral n digits)
    (small : n < UInt32.size) (ends : EndsWord rest) :
    readNumber (digits ++ rest) = some (n, rest) := by
  rcases numeral with ⟨nonempty, all, value⟩
  have stops : ∀ c ∈ rest.head?, c.isDigit = false := by
    intro c first
    by_contra digit
    have word := word_of_digit (by simpa using digit)
    simp [ends c first] at word
  have taken : takeDigits (digits ++ rest) = some (digits, rest) := by
    simp only [takeDigits]
    rw [takeWhile_run all stops, dropWhile_run all stops, if_neg (by simpa using nonempty)]
  simp [readNumber, taken, value, small]

theorem readName_sound {cs rest : List Char} {name : String}
    (found : readName cs = some (name, rest)) : IsName name.toList ∧ cs = name.toList ++ rest := by
  cases cs with
  | nil => cases found
  | cons c tail =>
    simp only [readName, Option.ite_none_right_eq_some, Option.some.injEq, Prod.mk.injEq] at found
    rcases found with ⟨start, rfl, rfl⟩
    have first : c.isAlpha ∨ c = '_' := by simpa using start
    rw [String.toList_ofList]
    refine ⟨⟨c, tail.takeWhile isWordChar, List.takeWhile_cons_of_pos (word_of_start first), first,
      ?_⟩, List.takeWhile_append_dropWhile.symm⟩
    intro d member
    simpa [isWordChar] using List.mem_takeWhile_imp member

theorem readName_name {name : String} {rest : List Char} (plain : IsName name.toList)
    (ends : EndsWord rest) : readName (name.toList ++ rest) = some (name, rest) := by
  rcases (word_of_name plain).taken ends with ⟨taken, left⟩
  rcases plain with ⟨first, more, parts, start, -⟩
  rw [parts, List.cons_append] at taken left ⊢
  simp only [readName]
  rw [if_pos (by simpa using start), taken, left, ← parts, String.ofList_toList]

end ColumnType

end RecordRows
