import RecordRows.Proofs.Text.Digits
/-! Texts that stand on one line. -/

namespace RecordRows.Text

def OneLine (cs : List Char) : Prop := '\n' ∉ cs

instance (cs : List Char) : Decidable (OneLine cs) := inferInstanceAs (Decidable (¬ _))

theorem OneLine.append {first second : List Char} (one : OneLine first) (other : OneLine second) :
    OneLine (first ++ second) := by
  simp only [OneLine, List.mem_append, not_or]
  exact ⟨one, other⟩

theorem OneLine.cons {c : Char} (visible : c ≠ '\n') {cs : List Char} (one : OneLine cs) :
    OneLine (c :: cs) := by
  simp only [OneLine, List.mem_cons, not_or]
  exact ⟨visible.symm, one⟩

theorem oneLine_of_digits {cs : List Char} (digits : ∀ c ∈ cs, c.isDigit) : OneLine cs :=
  fun member => absurd (digits '\n' member) (by decide)

theorem oneLine_replicate_zero (n : Nat) : OneLine (List.replicate n '0') := by
  apply oneLine_of_digits
  intro c member
  rw [List.eq_of_mem_replicate member]
  decide

theorem oneLine_natChars (n : Nat) : OneLine (natChars n) :=
  oneLine_of_digits (natChars_digits n)

theorem oneLine_intChars (n : Int) : OneLine (intChars n) := by
  rw [intChars]
  split
  · exact (oneLine_natChars _).cons (by decide)
  · exact oneLine_natChars _

end RecordRows.Text
