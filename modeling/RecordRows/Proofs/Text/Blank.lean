import RecordRows.Proofs.Text.Digits
import RecordRows.Text.Blank
/-! Texts that trimming leaves as they are, and white space that it takes away. -/

namespace RecordRows.Text

def Visible (cs : List Char) : Prop := ∀ c ∈ cs, isBlank c = false

theorem Visible.append {front back : List Char} (first : Visible front) (second : Visible back) :
    Visible (front ++ back) := by
  intro c member
  rcases List.mem_append.mp member with left | right
  · exact first c left
  · exact second c right

theorem Visible.cons {c : Char} (shown : isBlank c = false) {cs : List Char}
    (visible : Visible cs) : Visible (c :: cs) :=
  List.forall_mem_cons.mpr ⟨shown, visible⟩

theorem isBlank_of_digit {c : Char} (digit : c.isDigit) : isBlank c = false := by
  have range := digit_range digit
  simp only [isBlank, blankRanges, Ranges.has, List.any_cons, List.any_nil, Bool.or_eq_false_iff,
    Bool.and_eq_false_iff, decide_eq_false_iff_not, and_true]
  omega

theorem Numeral.visible {n : Nat} {digits : List Char} (numeral : Numeral n digits) :
    Visible digits :=
  fun c member => isBlank_of_digit (numeral.2.1 c member)

theorem trimStart_append {front : List Char} (visible : Visible front) (nonempty : front ≠ [])
    (rest : List Char) : trimStart (front ++ rest) = front ++ rest := by
  obtain ⟨c, cs, rfl⟩ := List.exists_cons_of_ne_nil nonempty
  have shown : isBlank c = false := visible c List.mem_cons_self
  rw [trimStart, List.cons_append, List.dropWhile_cons, shown, if_neg Bool.false_ne_true]

theorem trimEnd_append {back : List Char} (visible : Visible back) (nonempty : back ≠ [])
    (front : List Char) : trimEnd (front ++ back) = front ++ back := by
  have backward : Visible back.reverse := fun c member => visible c (List.mem_reverse.mp member)
  have kept := trimStart_append backward (by simpa using nonempty) front.reverse
  rw [trimStart] at kept
  rw [trimEnd, List.reverse_append, kept, ← List.reverse_append, List.reverse_reverse]

theorem trim_between {front back : List Char} (first : Visible front) (starts : front ≠ [])
    (second : Visible back) (ends : back ≠ []) (middle : List Char) :
    trim (front ++ (middle ++ back)) = front ++ (middle ++ back) := by
  rw [trim, trimStart_append first starts, ← List.append_assoc, trimEnd_append second ends]

theorem trimStart_visible {cs : List Char} (visible : Visible cs) : trimStart cs = cs := by
  by_cases empty : cs = []
  · rw [empty]
    rfl
  · simpa using trimStart_append visible empty []

theorem trim_visible {cs : List Char} (visible : Visible cs) : trim cs = cs := by
  by_cases empty : cs = []
  · rw [empty]
    rfl
  · have back : trimEnd cs = cs := by simpa using trimEnd_append visible empty []
    rw [trim, trimStart_visible visible, back]

def Blank (cs : List Char) : Prop := ∀ c ∈ cs, isBlank c = true

theorem trimStart_blank {cs : List Char} (blank : Blank cs) (rest : List Char) :
    trimStart (cs ++ rest) = trimStart rest :=
  List.dropWhile_append_of_pos blank

theorem trimEnd_blank {cs : List Char} (blank : Blank cs) (front : List Char) :
    trimEnd (front ++ cs) = trimEnd front := by
  have backward : Blank cs.reverse := fun c member => blank c (List.mem_reverse.mp member)
  rw [trimEnd, List.reverse_append]
  exact congrArg List.reverse (trimStart_blank backward front.reverse)

theorem trim_padded {before after : List Char} (front : Blank before) (back : Blank after)
    (cs : List Char) : trim (before ++ (cs ++ after)) = trim cs := by
  rw [trim, trimStart_blank front, trimStart, List.dropWhile_append]
  split
  · next gone =>
    have none : cs.dropWhile isBlank = [] := List.isEmpty_iff.mp gone
    have nothing : trimStart (after ++ []) = [] := trimStart_blank back []
    rw [List.append_nil, trimStart] at nothing
    rw [trim, trimStart, none, nothing]
  · exact trimEnd_blank back _

end RecordRows.Text
