import Mathlib.Data.List.DropRight
import RecordRows.Text.Split
/-! Pieces of a text: what splitting at a delimiter gives makes up the text again, and pieces that
are written with escapes are read back. -/

namespace RecordRows.Text

theorem foldr_consFirst (piece first : List Char) (others : List (List Char)) :
    piece.foldr consFirst (first :: others) = (piece ++ first) :: others := by
  induction piece with
  | nil => rfl
  | cons c piece ih => rw [List.foldr_cons, ih, consFirst, List.cons_append]

theorem consFirst_ne_nil (c : Char) (pieces : List (List Char)) : consFirst c pieces ≠ [] := by
  cases pieces <;> simp [consFirst]

theorem consFirst_ne_empty (c : Char) (pieces : List (List Char)) : consFirst c pieces ≠ [[]] := by
  cases pieces <;> simp [consFirst]

section Delimited

variable {delimiter : List Char}

theorem splitOn_ne_nil (cs : List Char) : splitOn delimiter cs ≠ [] := by
  fun_induction splitOn delimiter cs with
  | case1 => exact List.cons_ne_nil _ _
  | case2 => exact List.cons_ne_nil _ _
  | case3 c cs other ih => exact consFirst_ne_nil c _

theorem intercalate_consFirst (c : Char) {pieces : List (List Char)} (nonempty : pieces ≠ []) :
    delimiter.intercalate (consFirst c pieces) = c :: delimiter.intercalate pieces := by
  obtain ⟨first, others, rfl⟩ := List.exists_cons_of_ne_nil nonempty
  cases others <;> simp [consFirst, List.intercalate_cons_cons]

theorem append_drop_of_isPrefixOf (nonempty : delimiter ≠ []) {c : Char} {cs : List Char}
    (starts : delimiter.isPrefixOf (c :: cs)) :
    delimiter ++ cs.drop (delimiter.length - 1) = c :: cs := by
  obtain ⟨rest, whole⟩ := List.isPrefixOf_iff_prefix.mp starts
  obtain ⟨d, ds, rfl⟩ := List.exists_cons_of_ne_nil nonempty
  obtain ⟨rfl, rfl⟩ := List.cons.inj whole
  simp

theorem intercalate_splitOn (nonempty : delimiter ≠ []) (cs : List Char) :
    delimiter.intercalate (splitOn delimiter cs) = cs := by
  fun_induction splitOn delimiter cs with
  | case1 => rfl
  | case2 c cs starts ih =>
    rw [List.intercalate_cons_of_ne_nil (splitOn_ne_nil _), ih, List.nil_append]
    exact append_drop_of_isPrefixOf nonempty starts
  | case3 c cs other ih => rw [intercalate_consFirst c (splitOn_ne_nil cs), ih]

theorem first_isPrefix (nonempty : delimiter ≠ []) {cs first : List Char}
    {others : List (List Char)} (pieces : splitOn delimiter cs = first :: others) :
    first <+: cs := by
  have whole := intercalate_splitOn nonempty cs
  rw [pieces] at whole
  cases others with
  | nil => exact ⟨[], by simpa using whole⟩
  | cons next others =>
    rw [List.intercalate_cons_cons, List.append_assoc] at whole
    exact ⟨_, whole⟩

theorem not_infix_of_mem_splitOn (nonempty : delimiter ≠ []) {cs piece : List Char}
    (member : piece ∈ splitOn delimiter cs) : ¬ delimiter <:+: piece := by
  have empty : ¬ delimiter <:+: [] := by simpa using nonempty
  fun_induction splitOn delimiter cs generalizing piece with
  | case1 =>
    rw [List.mem_singleton.mp member]
    exact empty
  | case2 c cs starts ih =>
    rcases List.mem_cons.mp member with rfl | member
    · exact empty
    · exact ih member
  | case3 c cs other ih =>
    have split : splitOn delimiter cs ≠ [] := splitOn_ne_nil cs
    obtain ⟨first, others, pieces⟩ := List.exists_cons_of_ne_nil split
    rw [pieces] at member ih
    rcases List.mem_cons.mp member with rfl | member
    · intro inside
      rcases List.infix_cons_iff.mp inside with starts | inside
      · -- The first piece is where the text starts, which is with no delimiter.
        have front : c :: first <+: c :: cs :=
          List.cons_prefix_cons.mpr ⟨rfl, first_isPrefix nonempty pieces⟩
        exact other (List.isPrefixOf_iff_prefix.mpr (starts.trans front))
      · exact ih List.mem_cons_self inside
    · exact ih (List.mem_cons_of_mem first member)

theorem splitOn_singleton (c : Char) (cs : List Char) : splitOn [c] cs = cs.splitOn c := by
  induction cs with
  | nil => simp [splitOn]
  | cons d cs ih =>
    obtain ⟨first, others, pieces⟩ := List.exists_cons_of_ne_nil (List.splitOn_ne_nil c cs)
    rw [splitOn, List.splitOn_cons_eq_if_modifyHead]
    by_cases same : d = c
    · simp [same, ih]
    · simp [same, Ne.symm same, ih, pieces, consFirst]

end Delimited

section Trailing

variable {pieces : List (List Char)}

theorem dropTrailingEmpty_eq (pieces : List (List Char)) :
    dropTrailingEmpty pieces = pieces.rdropWhile List.isEmpty := rfl

theorem exists_trailing (pieces : List (List Char)) :
    ∃ count, dropTrailingEmpty pieces ++ List.replicate count [] = pieces := by
  have trailing : pieces.rtakeWhile List.isEmpty =
      List.replicate (pieces.rtakeWhile List.isEmpty).length [] :=
    List.eq_replicate_of_mem fun piece member =>
      List.isEmpty_iff.mp (List.mem_rtakeWhile_imp member)
  refine ⟨(pieces.rtakeWhile List.isEmpty).length, ?_⟩
  rw [dropTrailingEmpty_eq, ← trailing]
  exact List.rdropWhile_append_rtakeWhile

theorem getLast?_dropTrailingEmpty (pieces : List (List Char)) :
    (dropTrailingEmpty pieces).getLast? ≠ some [] := by
  intro last
  have kept : pieces.rdropWhile List.isEmpty ≠ [] := by
    intro none
    rw [dropTrailingEmpty_eq, none] at last
    cases last
  have shown := List.rdropWhile_last_not _ _ kept
  rw [dropTrailingEmpty_eq, List.getLast?_eq_some_getLast kept] at last
  simp [Option.some.inj last] at shown

theorem dropTrailingEmpty_of_last (last : pieces.getLast? ≠ some []) :
    dropTrailingEmpty pieces = pieces := by
  rw [dropTrailingEmpty_eq, List.rdropWhile_eq_self_iff]
  intro nonempty empty
  rw [List.getLast?_eq_some_getLast nonempty, List.isEmpty_iff.mp empty] at last
  exact last rfl

theorem intercalate_replicate (delimiter last : List Char) (count : Nat) :
    delimiter.intercalate (last :: List.replicate count []) =
      last ++ (List.replicate count delimiter).flatten := by
  induction count generalizing last with
  | zero => simp
  | succ count ih =>
    rw [List.replicate_succ, List.intercalate_cons_cons, ih, List.nil_append, List.replicate_succ,
      List.flatten_cons, List.append_assoc]

theorem exists_copies (delimiter : List Char) (pieces : List (List Char)) (count : Nat) :
    ∃ copies, delimiter.intercalate (pieces ++ List.replicate count []) =
      delimiter.intercalate pieces ++ (List.replicate copies delimiter).flatten := by
  induction pieces with
  | nil =>
    cases count with
    | zero => exact ⟨0, rfl⟩
    | succ count => exact ⟨count, intercalate_replicate delimiter [] count⟩
  | cons piece pieces ih =>
    cases pieces with
    | nil => exact ⟨count, by simpa using intercalate_replicate delimiter piece count⟩
    | cons next pieces =>
      obtain ⟨copies, whole⟩ := ih
      refine ⟨copies, ?_⟩
      rw [List.cons_append, List.cons_append, List.intercalate_cons_cons, ← List.cons_append, whole,
        List.intercalate_cons_cons, List.append_assoc, List.append_assoc, List.append_assoc]

end Trailing

def escapeChars (separator escape : Char) (piece : List Char) : List Char :=
  piece.flatMap fun c => if c = separator ∨ c = escape then [escape, c] else [c]

/-- Pieces with escapes and a separator between two of them. -/
def joinEscaped (separator escape : Char) (pieces : List String) : String :=
  String.intercalate (String.singleton separator)
    (pieces.map fun piece => String.ofList (escapeChars separator escape piece.toList))

section Escaped

variable {separator escape : Char}

theorem splitEscaped_escape (d : Char) (cs : List Char) :
    splitEscaped separator escape (escape :: d :: cs) =
      consFirst d (splitEscaped separator escape cs) := by
  rw [splitEscaped, if_pos rfl]

theorem splitEscaped_separator (apart : separator ≠ escape) (cs : List Char) :
    splitEscaped separator escape (separator :: cs) = [] :: splitEscaped separator escape cs := by
  cases cs <;> simp [splitEscaped, apart]

theorem splitEscaped_plain {c : Char} (plain : ¬ (c = separator ∨ c = escape)) (cs : List Char) :
    splitEscaped separator escape (c :: cs) = consFirst c (splitEscaped separator escape cs) := by
  obtain ⟨inside, literal⟩ := not_or.mp plain
  cases cs <;> simp [splitEscaped, inside, literal, consFirst]

theorem splitEscaped_escapeChars (piece rest : List Char) :
    splitEscaped separator escape (escapeChars separator escape piece ++ rest) =
      piece.foldr consFirst (splitEscaped separator escape rest) := by
  induction piece with
  | nil => rfl
  | cons c piece ih =>
    rw [escapeChars, List.flatMap_cons, ← escapeChars, List.append_assoc, List.foldr_cons, ← ih]
    split
    · exact splitEscaped_escape c _
    · next plain => exact splitEscaped_plain plain _

theorem splitEscaped_joined (apart : separator ≠ escape) {pieces : List (List Char)}
    (nonempty : pieces ≠ []) :
    splitEscaped separator escape
      ([separator].intercalate (pieces.map (escapeChars separator escape))) = pieces := by
  induction pieces with
  | nil => exact absurd rfl nonempty
  | cons piece pieces ih =>
    cases pieces with
    | nil =>
      have single : splitEscaped separator escape (escapeChars separator escape piece ++ []) = _ :=
        splitEscaped_escapeChars piece []
      simpa [splitEscaped, foldr_consFirst] using single
    | cons next pieces =>
      rw [List.map_cons, List.map_cons, List.intercalate_cons_cons, List.append_assoc,
        splitEscaped_escapeChars, List.singleton_append, splitEscaped_separator apart,
        foldr_consFirst,
        List.append_nil, ← List.map_cons, ih (List.cons_ne_nil next pieces)]

theorem toList_joinEscaped (pieces : List String) :
    (joinEscaped separator escape pieces).toList =
      [separator].intercalate ((pieces.map String.toList).map (escapeChars separator escape)) := by
  simp [joinEscaped, Function.comp_def]

theorem splitEscaped_ne_nil (cs : List Char) : splitEscaped separator escape cs ≠ [] := by
  fun_cases splitEscaped separator escape cs <;> simp [consFirst_ne_nil]

theorem splitEscaped_ne_empty {cs : List Char} (nonempty : cs ≠ []) :
    splitEscaped separator escape cs ≠ [[]] := by
  fun_cases splitEscaped separator escape cs with
  | case1 => exact absurd rfl nonempty
  | case2 => simp
  | case3 => simp
  | case4 => simp
  | case5 d cs => exact consFirst_ne_empty d _
  | case6 d cs other => simp [splitEscaped_ne_nil]
  | case7 c d cs => exact consFirst_ne_empty c _

theorem splitUnescape_ne_empty (s : String) : splitUnescape s separator escape ≠ [""] := by
  rw [splitUnescape]
  split
  · nofun
  · next nonempty =>
    intro single
    have pieces : splitEscaped separator escape s.toList = [[]] := by
      simpa [List.map_eq_singleton_iff] using single
    exact splitEscaped_ne_empty (by simpa using nonempty) pieces

theorem splitUnescape_joined (apart : separator ≠ escape) {pieces : List String}
    (other : pieces ≠ [""]) :
    splitUnescape (joinEscaped separator escape pieces) separator escape = pieces := by
  by_cases none : pieces = []
  · rw [none]
    rfl
  · have read : splitEscaped separator escape (joinEscaped separator escape pieces).toList =
        pieces.map String.toList := by
      rw [toList_joinEscaped]
      exact splitEscaped_joined apart (by simpa using none)
    rw [splitUnescape]
    split
    · next empty =>
      have single : pieces = [""] := by
        rw [String.isEmpty_iff.mp empty] at read
        simpa [splitEscaped, List.map_eq_singleton_iff] using read.symm
      exact absurd single other
    · rw [read, List.map_map]
      simp [Function.comp_def]

/-- Pieces that are written with escapes are read back, except where they are one empty piece, which
no text has. What is read of any text is so read back. -/
theorem splitUnescape_joinEscaped (apart : separator ≠ escape) :
    (∀ pieces, splitUnescape (joinEscaped separator escape pieces) separator escape = pieces ↔
      pieces ≠ [""]) ∧
    ∀ s, splitUnescape (joinEscaped separator escape (splitUnescape s separator escape))
      separator escape = splitUnescape s separator escape := by
  refine ⟨fun pieces => ⟨?_, splitUnescape_joined apart⟩, ?_⟩
  · intro back empty
    exact splitUnescape_ne_empty _ (back.trans empty)
  · intro s
    exact splitUnescape_joined apart (splitUnescape_ne_empty s)

theorem splitUnescape_joinEscaped_marks :
    ',' ≠ '\x5c' ∧ ["", ",\x5c", "a", ""] ≠ [""] ∧
    splitUnescape ",\x5c,\x5c\x5c,a," ',' '\x5c' = ["", ",\x5c", "a", ""] ∧
    splitUnescape (joinEscaped ',' '\x5c' ["a", "\x5c"]) ',' '\x5c' =
      splitUnescape "\x5ca,\x5c" ',' '\x5c' := by
  have apart : ',' ≠ '\x5c' := by decide
  have other : ["", ",\x5c", "a", ""] ≠ [""] := by decide
  have pieces : splitUnescape "\x5ca,\x5c" ',' '\x5c' = ["a", "\x5c"] := by rfl
  obtain ⟨written, read⟩ := splitUnescape_joinEscaped apart
  have again := read "\x5ca,\x5c"
  rw [pieces] at again
  exact ⟨apart, other, (written _).mpr other, again.trans pieces.symm⟩

end Escaped

end RecordRows.Text
