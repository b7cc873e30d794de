/-! The letters and digits of ASCII, and facts about all characters of a text. -/

namespace RecordRows.Text

/-- A fact about all characters of a text is decided by going through the text, never through the
whole type. -/
instance decidableForallMem (p : Char → Prop) [DecidablePred p] (cs : List Char) :
    Decidable (∀ c ∈ cs, p c) := List.decidableBAll p cs

theorem upper_range {c : Char} (upper : c.isUpper) : 0x41 ≤ c.toNat ∧ c.toNat ≤ 0x5A := by
  have bounds : 'A'.val ≤ c.val ∧ c.val ≤ 'Z'.val := of_decide_eq_true upper
  exact ⟨UInt32.le_iff_toNat_le.mp bounds.1, UInt32.le_iff_toNat_le.mp bounds.2⟩

theorem lower_range {c : Char} (lower : c.isLower) : 0x61 ≤ c.toNat ∧ c.toNat ≤ 0x7A := by
  have bounds := Bool.and_eq_true_iff.mp lower
  have above : 'a'.val ≤ c.val := of_decide_eq_true bounds.1
  have below : c.val ≤ 'z'.val := of_decide_eq_true bounds.2
  exact ⟨UInt32.le_iff_toNat_le.mp above, UInt32.le_iff_toNat_le.mp below⟩

theorem digit_range {c : Char} (digit : c.isDigit) : 0x30 ≤ c.toNat ∧ c.toNat ≤ 0x39 :=
  Char.isDigit_iff_toNat.mp digit

theorem alphanum_iff {c : Char} : c.isAlphanum ↔ c.isUpper ∨ c.isLower ∨ c.isDigit := by
  have parts : c.isAlphanum = (c.isUpper || c.isLower || c.isDigit) := rfl
  rw [parts, Bool.or_eq_true, Bool.or_eq_true, or_assoc]

theorem alphanum_range {c : Char} (alphanum : c.isAlphanum) : 0x30 ≤ c.toNat ∧ c.toNat ≤ 0x7A := by
  rcases alphanum_iff.mp alphanum with upper | lower | digit
  · have range := upper_range upper
    omega
  · have range := lower_range lower
    omega
  · have range := digit_range digit
    omega

theorem toLower_of_not_upper {c : Char} (other : ¬ c.isUpper) : c.toLower = c :=
  dif_neg fun upper => other (decide_eq_true upper)

theorem toLower_of_digit {c : Char} (digit : c.isDigit) : c.toLower = c := by
  apply toLower_of_not_upper
  intro upper
  have letter := upper_range upper
  have range := digit_range digit
  omega

end RecordRows.Text
