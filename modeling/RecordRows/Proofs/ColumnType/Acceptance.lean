import RecordRows.Proofs.ColumnType.Completeness
import RecordRows.Proofs.ColumnType.Soundness
import RecordRows.Table.Properties
/-! Which texts are lists of column types, and which types they list: the reader accepts the
notation within the bounds of the parameters, and nothing else. -/

namespace RecordRows

namespace ColumnType

open Text

theorem primitive_fault (p : Primitive) : (primitive p).fault? = none ↔ p.WithinBounds := by
  cases p with
  | decimal precision scale =>
    by_cases outside : precision = 0 ∨ 38 < precision
    · have refused : ¬ (1 ≤ precision ∧ precision ≤ 38 ∧ scale ≤ precision) := by omega
      simp [fault?, Primitive.WithinBounds, maxPrecision, outside, refused]
    · have inside : 1 ≤ precision ∧ precision ≤ 38 := by omega
      simp [fault?, Primitive.WithinBounds, maxPrecision, outside, inside]
  | varchar n =>
    by_cases within : 1 ≤ n ∧ n ≤ 65535 <;>
      simp [fault?, Primitive.WithinBounds, maxVarcharLength, within]
  | char n =>
    by_cases within : 1 ≤ n ∧ n ≤ 255 <;>
      simp [fault?, Primitive.WithinBounds, maxCharLength, within]
  | _ => simp [fault?, Primitive.WithinBounds]

mutual

theorem fault?_eq_none_iff : ∀ type : ColumnType, type.fault? = none ↔ WithinBounds type
  | .primitive p => by
    rw [primitive_fault]
    exact ⟨.primitive, fun | .primitive within => within⟩
  | .array item => by
    rw [fault?, fault?_eq_none_iff item]
    exact ⟨.array, fun | .array within => within⟩
  | .map key value => by
    rw [fault?, Option.orElse_eq_orElse, Option.orElse_eq_or, Option.or_eq_none_iff,
      fault?_eq_none_iff key, fault?_eq_none_iff value]
    exact ⟨fun both => .map both.1 both.2, fun | .map keyed valued => ⟨keyed, valued⟩⟩
  | .struct members => by
    rw [fault?, memberFault?_eq_none_iff members]
    exact ⟨.struct, fun | .struct within => within⟩
  | .union members => by
    rw [fault?, listFault?_eq_none_iff members]
    exact ⟨.union, fun | .union within => within⟩

theorem memberFault?_eq_none_iff : ∀ members : List (String × ColumnType),
    memberFault? members = none ↔ ∀ member ∈ members, WithinBounds member.2
  | [] => by simp [memberFault?]
  | (name, type) :: members => by
    have head := fault?_eq_none_iff type
    have tail := memberFault?_eq_none_iff members
    simp [memberFault?, head, tail]

theorem listFault?_eq_none_iff : ∀ types : List ColumnType,
    listFault? types = none ↔ ∀ type ∈ types, WithinBounds type
  | [] => by simp [listFault?]
  | type :: types => by
    have head := fault?_eq_none_iff type
    have tail := listFault?_eq_none_iff types
    simp [listFault?, head, tail]

end

theorem not_blank_of_word {c : Char} (word : isWordChar c) : isBlank c = false := by
  have range : 0x30 ≤ c.toNat ∧ c.toNat ≤ 0x7A := by
    rw [isWordChar, Bool.or_eq_true, decide_eq_true_eq] at word
    rcases word with alphanum | rfl
    · exact alphanum_range alphanum
    · decide
  simp [isBlank, Ranges.has, blankRanges]
  omega

theorem SpellsList.not_blank {types : List ColumnType} {cs : List Char}
    (spelled : SpellsList types cs) : cs.all isBlank = false := by
  rcases spelled with ⟨before, body, after, -, items, -, rfl⟩
  have starts : StartsWord body := by
    cases items with
    | single head => exact head.startsWord
    | cons head _ _ => exact head.startsWord.append _
  rcases starts with ⟨c, tail, rfl, word⟩
  simp [not_blank_of_word word]

theorem spellsList_of_readList {cs : List Char} {types : List ColumnType}
    (found : readList cs = .ok types) (solid : cs.all isBlank = false) :
    SpellsList types cs ∧ ∀ type ∈ types, WithinBounds type := by
  rw [readList, if_neg (by simp [solid])] at found
  split at found
  · cases found
  · next listed rest read =>
    split at found
    · cases found
    · next noRest =>
      split at found
      · cases found
      · next noFault =>
        cases found
        refine ⟨?_, (listFault?_eq_none_iff types).mp noFault⟩
        obtain ⟨taken, ⟨gap, body, spaces, items, rfl⟩, rfl⟩ :=
          readSeparated_sound read_sound _ _ _ read
        rcases exists_gap rest with ⟨after, trailing, parts⟩
        have empty : skipSpace rest = [] := by simpa using noRest
        rw [empty, List.append_nil] at parts
        exact ⟨gap, body, after, spaces, items, trailing, by rw [parts, List.append_assoc]⟩

theorem readList_of_spellsList {cs : List Char} {types : List ColumnType}
    (spelled : SpellsList types cs) (within : ∀ type ∈ types, WithinBounds type) :
    readList cs = .ok types := by
  have solid := spelled.not_blank
  rcases spelled with ⟨gap, body, after, spaces, items, trailing, rfl⟩
  have nothing : skipSpace after = [] := by
    have skipped := skipSpace_gap_append trailing []
    rwa [List.append_nil] at skipped
  have readable : Separated (Marked [',', ':', ';'])
      (Readable ([',', ':', ';'] ++ []) read) types body := by
    refine separated_imp items ?_
    intro type member text spelled _
    exact (read_readable spelled (within type member)).mono (by decide)
  have before : Before [] after := by
    intro c found
    rw [nothing] at found
    cases found
  obtain ⟨last, found, same⟩ := (readSeparated_readable (by decide) (by simp) readable).reads gap
    after spaces before
  rw [readList, if_neg (by simpa using solid), found]
  simp [same, nothing, (listFault?_eq_none_iff types).mpr within]

theorem readList_eq_ok_iff (cs : List Char) (types : List ColumnType) :
    readList cs = .ok types ↔ (cs.all isBlank ∧ types = []) ∨
      (SpellsList types cs ∧ ∀ type ∈ types, WithinBounds type) := by
  by_cases blank : cs.all isBlank
  · have refused : ¬ SpellsList types cs := by
      intro spelled
      simp [spelled.not_blank] at blank
    rw [readList, if_pos blank]
    simp [blank, refused, eq_comm]
  · rw [Bool.not_eq_true] at blank
    simp only [blank, Bool.false_eq_true, false_and, false_or]
    exact ⟨fun found => spellsList_of_readList found blank, fun ⟨spelled, within⟩ =>
      readList_of_spellsList spelled within⟩

end ColumnType

namespace Properties

theorem readTypes_ok {input : String} {types : List ColumnType} :
    readTypes input = .ok types ↔ ColumnType.readList input.toList = .ok types := by
  rw [readTypes]
  cases ColumnType.readList input.toList <;> simp [Except.mapError]

/-- A text is accepted as a list of types exactly if it is blank, for the empty list, or spells the
types and their parameters are within bounds. -/
theorem readTypes_eq_ok_iff (input : String) (types : List ColumnType) :
    readTypes input = .ok types ↔
      ((∀ c ∈ input.toList, Text.isBlank c) ∧ types = []) ∨
      (ColumnType.SpellsList types input.toList ∧ ∀ type ∈ types, type.WithinBounds) := by
  rw [readTypes_ok, ColumnType.readList_eq_ok_iff, List.all_eq_true]

end Properties

end RecordRows
