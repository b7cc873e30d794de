/-! Runs of one class of characters, which reach to the first character of another. -/

namespace RecordRows.Text

variable {p : Char → Bool} {run rest : List Char}

theorem takeWhile_run (inside : ∀ c ∈ run, p c) (ends : ∀ c ∈ rest.head?, p c = false) :
    (run ++ rest).takeWhile p = run := by
  rw [List.takeWhile_append_of_pos inside]
  cases rest with
  | nil => simp
  | cons c rest => simp [ends c rfl]

theorem dropWhile_run (inside : ∀ c ∈ run, p c) (ends : ∀ c ∈ rest.head?, p c = false) :
    (run ++ rest).dropWhile p = rest := by
  rw [List.dropWhile_append_of_pos inside]
  cases rest with
  | nil => rfl
  | cons c rest => simp [ends c rfl]

theorem run_unique {other back : List Char} (inside : ∀ c ∈ run, p c) (within : ∀ c ∈ other, p c)
    (ends : ∀ c ∈ rest.head?, p c = false) (stops : ∀ c ∈ back.head?, p c = false)
    (same : run ++ rest = other ++ back) : run = other ∧ rest = back := by
  have equal : run = other := by
    calc
      run = (run ++ rest).takeWhile p := (takeWhile_run inside ends).symm
      _ = (other ++ back).takeWhile p := by rw [same]
      _ = other := takeWhile_run within stops
  subst equal
  exact ⟨rfl, List.append_cancel_left same⟩

end RecordRows.Text
