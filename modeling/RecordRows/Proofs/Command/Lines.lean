import RecordRows.Command.Basic
import RecordRows.Proofs.Text.Blank
/-! The lines of a file and their numbers: a line reaches from the end of the one before it to the
next end of line, and its number counts the ends of line before it. -/

namespace RecordRows.Command

/-- A whole line of a file, with its end if it has one. -/
structure IsLine (content : List UInt8) (number : Nat) (line : List UInt8) : Prop where
  parts : ∃ before after, content = before ++ line ++ after ∧ before.count 10 + 1 = number ∧
    (before = [] ∨ before.getLast? = some 10) ∧ (after = [] ∨ line.getLast? = some 10)
  nonempty : line ≠ []
  single : 10 ∉ line.dropLast

theorem IsLine.start {content : List UInt8} {line : List UInt8} (first : IsLine content 1 line) :
    ∃ after, content = line ++ after ∧ (after = [] ∨ line.getLast? = some 10) := by
  obtain ⟨before, after, rfl, counted, ends, closed⟩ := first.parts
  have empty : before = [] := by
    rcases ends with empty | last
    · exact empty
    · have member : 10 ∈ before := List.mem_of_getLast? last
      have positive := List.count_pos_iff.mpr member
      omega
  exact ⟨after, by rw [empty, List.nil_append], closed⟩

end RecordRows.Command
