import RecordRows.Proofs.Text.Ascii
import RecordRows.Text.Digits
/-! The decimal text of a number: what its digits are, and that the number can be read back. -/

namespace RecordRows.Text

def Numeral (n : Nat) (cs : List Char) : Prop :=
  cs ≠ [] ∧ (∀ c ∈ cs, c.isDigit) ∧ digitsValue cs = n

theorem readNat?_eq_some_iff {cs : List Char} {n : Nat} : readNat? cs = some n ↔ Numeral n cs := by
  rw [readNat?, Option.ite_none_right_eq_some, Bool.and_eq_true, List.all_eq_true,
    Option.some.injEq, Bool.not_eq_true', List.isEmpty_eq_false_iff, and_assoc]
  rfl

theorem natChars_ne_nil (n : Nat) : natChars n ≠ [] := Nat.toDigits_ne_nil

theorem natChars_digits (n : Nat) : ∀ c ∈ natChars n, c.isDigit :=
  fun _ member => Nat.isDigit_of_mem_toDigits (by decide) (by decide) member

theorem digitsValue_eq (cs : List Char) : digitsValue cs = Nat.ofDigitChars 10 cs 0 := by
  rw [digitsValue, Nat.ofDigitChars_eq_foldl]
  congr 1
  funext n c
  rw [digitValue, Nat.mul_comm]

theorem digitsValue_natChars (n : Nat) : digitsValue (natChars n) = n := by
  rw [digitsValue_eq, natChars, Nat.ofDigitChars_ten_toDigits]

theorem digitsValue_append (front back : List Char) :
    digitsValue (front ++ back) =
      digitsValue front * placeValue back.length + digitsValue back := by
  rw [digitsValue_eq, digitsValue_eq, digitsValue_eq, Nat.ofDigitChars_append,
    Nat.ofDigitChars_eq_ofDigitChars_zero, Nat.mul_comm]
  rfl

theorem digitsValue_zeros (n : Nat) : digitsValue (List.replicate n '0') = 0 := by
  induction n with
  | zero => rfl
  | succ n ih => exact ih

theorem head_natChars {n : Nat} (positive : 0 < n) : (natChars n).head? ≠ some '0' := by
  induction n using Nat.strongRecOn with
  | ind n ih =>
    rw [natChars, Nat.toDigits_eq_if (by decide)]
    split
    · next small =>
      have digit : ∀ n < 10, 0 < n → n.digitChar ≠ '0' := by decide
      exact fun same => digit n small positive (Option.some.inj same)
    · obtain ⟨c, cs, parts⟩ := List.exists_cons_of_ne_nil (natChars_ne_nil (n / 10))
      have first := ih (n / 10) (by omega) (by omega)
      rw [parts] at first
      rw [natChars] at parts
      rwa [parts]

theorem numeral_natChars (n : Nat) : Numeral n (natChars n) :=
  ⟨natChars_ne_nil n, natChars_digits n, digitsValue_natChars n⟩

theorem digitsValue_padded (zeros : Nat) (cs : List Char) :
    digitsValue (List.replicate zeros '0' ++ cs) = digitsValue cs := by
  induction zeros with
  | zero => rfl
  | succ zeros ih => exact ih

theorem numeral_padNat (width n : Nat) : Numeral n (padNat width n) := by
  refine ⟨List.append_ne_nil_of_right_ne_nil _ (natChars_ne_nil n), ?_, ?_⟩
  · intro c member
    rcases List.mem_append.mp member with zero | digit
    · rw [List.eq_of_mem_replicate zero]
      rfl
    · exact natChars_digits n c digit
  · rw [padNat, digitsValue_padded, digitsValue_natChars]

theorem length_padNat {width n : Nat} (positive : 0 < width) (bound : n < placeValue width) :
    (padNat width n).length = width := by
  have fits : (natChars n).length ≤ width :=
    (Nat.length_toDigits_le_iff (by decide) positive).mpr bound
  rw [padNat, List.length_append, List.length_replicate]
  omega

theorem log10_lt_iff {n places : Nat} (positive : 0 < n) :
    log10 n < places ↔ n < placeValue places := by
  have some : 0 < (natChars n).length := List.length_pos_iff.mpr (natChars_ne_nil n)
  rw [log10]
  cases places with
  | zero =>
    have one : placeValue 0 = 1 := rfl
    omega
  | succ places =>
    have fits : (natChars n).length ≤ places + 1 ↔ n < placeValue (places + 1) :=
      Nat.length_toDigits_le_iff (by decide) (by omega)
    omega

theorem le_length_padNat (width n : Nat) : width ≤ (padNat width n).length := by
  rw [padNat, List.length_append, List.length_replicate]
  omega

end RecordRows.Text
