import RecordRows.Proofs.Text.Ascii
import RecordRows.Text.LowerCase
/-! Texts that differ only in the case of the letters A to Z have one lower case. -/

namespace RecordRows.Text

/-- All that lower case asks of a character is the same for it and for its ASCII lower case. -/
def CaseBlind (c : Char) : Prop :=
  lowerChar c.toLower = lowerChar c ∧ (c.toLower = 'Σ' ↔ c = 'Σ') ∧
    casedRanges.has c.toLower = casedRanges.has c ∧
    caseIgnorableRanges.has c.toLower = caseIgnorableRanges.has c

instance (c : Char) : Decidable (CaseBlind c) := inferInstanceAs (Decidable (_ ∧ _ ∧ _ ∧ _))

theorem caseBlind (c : Char) : CaseBlind c := by
  by_cases upper : c.isUpper
  · have letters : ∀ i < 26, CaseBlind (Char.ofNat (0x41 + i)) := by decide +kernel
    have range := upper_range upper
    have blind := letters (c.toNat - 0x41) (by omega)
    rwa [Nat.add_sub_cancel' range.1, Char.ofNat_toNat] at blind
  · rw [CaseBlind, toLower_of_not_upper upper]
    exact ⟨rfl, Iff.rfl, rfl, rfl⟩

theorem startsCased_asciiLower (cs : List Char) : startsCased (asciiLower cs) = startsCased cs := by
  induction cs with
  | nil => rfl
  | cons c cs ih =>
    obtain ⟨-, -, cased, ignorable⟩ := caseBlind c
    simp only [startsCased, asciiLower, List.map_cons, List.dropWhile_cons, ignorable] at ih ⊢
    cases caseIgnorableRanges.has c with
    | true => exact ih
    | false => exact cased

theorem lowerAfter_asciiLower (before cs : List Char) :
    lowerAfter (asciiLower before) (asciiLower cs) = lowerAfter before cs := by
  -- The neighbours of a character count only by whether they have case and whether they matter for
  -- it.
  induction cs generalizing before with
  | nil => rfl
  | cons c cs ih =>
    obtain ⟨lower, final, -, -⟩ := caseBlind c
    have rest :
        lowerAfter (c.toLower :: asciiLower before) (asciiLower cs) = lowerAfter (c :: before) cs :=
      ih (c :: before)
    have lowered : asciiLower (c :: cs) = c.toLower :: asciiLower cs := rfl
    rw [lowered, lowerAfter, lowerAfter, rest, startsCased_asciiLower,
      startsCased_asciiLower, lower]
    simp only [final]

theorem lowerCase_eq_of_sameIgnoringAsciiCase {name other : String}
    (same : sameIgnoringAsciiCase name.toList other.toList) : lowerCase name = lowerCase other := by
  have letters : asciiLower name.toList = asciiLower other.toList := eq_of_beq same
  have first : lowerAfter [] (asciiLower name.toList) = lowerAfter [] name.toList :=
    lowerAfter_asciiLower [] name.toList
  have second : lowerAfter [] (asciiLower other.toList) = lowerAfter [] other.toList :=
    lowerAfter_asciiLower [] other.toList
  rw [lowerCase, lowerCase, ← first, ← second, letters]

end RecordRows.Text
