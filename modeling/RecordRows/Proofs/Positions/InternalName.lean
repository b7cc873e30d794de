import RecordRows.Proofs.Text.Digits
import RecordRows.Proofs.Text.LowerCase
import RecordRows.Table.Positions
/-! Internal column names: the number that a name encodes, and that it has one name only. -/

namespace RecordRows

open Text

/-- The name is the stem with digits behind it, any zeros in front included. -/
def Encodes (name : String) (n : Nat) : Prop :=
  ∃ digits, name.toList = internalStem.toList ++ digits ∧ Numeral n digits

theorem encodes_internalName (n : Nat) : Encodes (internalName n) n := by
  have spelled : (internalName n).toList = internalStem.toList ++ natChars n := by
    rw [internalName, natText, String.toList_append, String.toList_ofList]
  exact ⟨natChars n, spelled, numeral_natChars n⟩

theorem Encodes.unique {name : String} {m n : Nat} (first : Encodes name m)
    (second : Encodes name n) : m = n := by
  rcases first with ⟨digits, spelled, -, -, value⟩
  rcases second with ⟨others, again, -, -, other⟩
  have same : digits = others := List.append_cancel_left (spelled.symm.trans again)
  rw [← value, same, other]

theorem internalName_injective {m n : Nat} (same : internalName m = internalName n) : m = n := by
  have encoded := encodes_internalName m
  rw [same] at encoded
  exact encoded.unique (encodes_internalName n)

theorem internalPosition?_encoded {name : String} {n : Nat} (encoded : Encodes name n) :
    internalPosition? name = some (min maxPosition n) := by
  rcases encoded with ⟨digits, spelled, numeral⟩
  have stem : internalStem.toList.isPrefixOf name.toList := by
    rw [spelled, List.isPrefixOf_iff_prefix]
    exact List.prefix_append _ _
  rw [internalPosition?, if_pos stem, spelled, List.drop_left, readNat?_eq_some_iff.mpr numeral,
    Option.map_some]

theorem internalPosition?_plain {name : String} (plain : ∀ n, ¬ Encodes name n) :
    internalPosition? name = none := by
  rw [internalPosition?]
  split
  · next stem =>
    rcases List.isPrefixOf_iff_prefix.mp stem with ⟨digits, spelled⟩
    rw [← spelled, List.drop_left, Option.map_eq_none_iff]
    cases read : readNat? digits with
    | none => rfl
    | some n => exact absurd ⟨digits, spelled.symm, readNat?_eq_some_iff.mp read⟩ (plain n)
  · rfl

theorem Encodes.stem_or_digit {name : String} {n : Nat} (encoded : Encodes name n) :
    ∀ c ∈ name.toList, c ∈ internalStem.toList ∨ c.isDigit := by
  rcases encoded with ⟨digits, spelled, -, decimal, -⟩
  intro c member
  rw [spelled, List.mem_append] at member
  rcases member with stem | digit
  · exact .inl stem
  · exact .inr (decimal c digit)

theorem settled_of_digit {c : Char} (digit : c.isDigit) : Settled c := by
  have low : c.toNat < 0x41 := by
    have range := digit_range digit
    omega
  apply settled_of_unmapped
  · intro dotted
    subst dotted
    exact absurd digit (by decide)
  · exact unmapped_of_lt low

theorem Encodes.lowerCase {name : String} {n : Nat} (encoded : Encodes name n) :
    lowerCase name = name := by
  apply lowerCase_settled
  intro c member
  rcases encoded.stem_or_digit c member with stem | digit
  · have settled : ∀ c ∈ internalStem.toList, Settled c := by decide +kernel
    exact settled c stem
  · exact settled_of_digit digit

theorem Encodes.asciiLower {name : String} {n : Nat} (encoded : Encodes name n) :
    asciiLower name.toList = name.toList := by
  have fixed : ∀ c ∈ name.toList, c.toLower = c := by
    intro c member
    rcases encoded.stem_or_digit c member with stem | digit
    · have lower : ∀ c ∈ internalStem.toList, c.toLower = c := by decide +kernel
      exact lower c stem
    · exact toLower_of_digit digit
  rw [Text.asciiLower, List.map_congr_left fixed, List.map_id']

theorem Encodes.sameIgnoringAsciiCase_iff {name other : String} {m n : Nat}
    (first : Encodes name m) (second : Encodes other n) :
    sameIgnoringAsciiCase name.toList other.toList ↔ name = other := by
  rw [sameIgnoringAsciiCase, first.asciiLower, second.asciiLower, beq_iff_eq, String.toList_inj]

end RecordRows
