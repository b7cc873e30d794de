import RecordRows.Proofs.Positions.Resolution
import RecordRows.Proofs.Text.AsciiCase
import RecordRows.Proofs.Traversal
/-! The spelling of a name: however a field is written, its position is the one under its
lower case. -/

namespace RecordRows.Positions

open Text

variable {t : Table} {source : Schema} {p : Positions}

/-- What the name itself finds is what its lower case finds, so that the position of a field is the
entry of its lower case. Names with one lower case have one position, and so have those that differ
in the case of the letters A to Z. -/
theorem position_any_case (resolved : resolve t source = .ok p) (field : String) :
    (∀ own, p.entries.lookup field = some own → p.entries.lookup (lowerCase field) = some own) ∧
    p.position field = (p.entries.lookup (lowerCase field)).getD .unmapped ∧
    (∀ other, lowerCase other = lowerCase field → p.position other = p.position field) ∧
    ∀ other, sameIgnoringAsciiCase other.toList field.toList →
      p.position other = p.position field := by
  refine ⟨?_, position_eq resolved field, ?_, ?_⟩
  · intro own found
    rw [lowerCase_key resolved found, found]
  · intro other same
    exact position_congr resolved same
  · intro other letters
    exact position_congr resolved (lowerCase_eq_of_sameIgnoringAsciiCase letters)

def streets : Table := ⟨[⟨"οδος", .primitive .string⟩, ⟨"city", .primitive .string⟩]⟩

def letters : Schema := ["ΟΔΟΣ", "_col1"].map (⟨·, .string, true⟩)

theorem position_any_case_sigma : ∃ p, resolve streets letters = .ok p ∧
    p.position "ΟΔΟΣ" = .column 0 ∧ p.position "Οδος" = p.position "ΟΔΟΣ" ∧
    p.position "οδοσ" = .unmapped ∧ p.position "_COL1" = p.position "_col1" := by
  have filled : (resolve streets letters).map entries =
      .ok [("οδος", .column 0), ("_col1", .column 1)] := by decide +kernel
  obtain ⟨p, resolved, same⟩ := map_eq_ok_iff_exists.mp filled
  refine ⟨p, resolved, ?_, ?_, ?_, ?_⟩
  · rw [(position_any_case resolved "ΟΔΟΣ").2.1, ← same]
    decide +kernel
  · exact (position_any_case resolved "ΟΔΟΣ").2.2.1 "Οδος" (by decide +kernel)
  · rw [(position_any_case resolved "οδοσ").2.1, ← same]
    decide +kernel
  · exact (position_any_case resolved "_col1").2.2.2 "_COL1" (by decide +kernel)

end RecordRows.Positions
