import RecordRows.Proofs.Text.Split
import RecordRows.Table.Basic
/-! The names in a list of column names: with the delimiters between them they make up the list, and
each meets the column type at its place. -/

namespace RecordRows.Table

open Text

/-- The text has these names with a delimiter between two of them, and only further delimiters
behind the last one. No delimiter is part of a name, and the last name is not empty. -/
structure Lists (text delimiter : String) (names : List String) : Prop where
  whole : ∃ copies, text =
    String.intercalate delimiter names ++ String.join (List.replicate copies delimiter)
  apart : ∀ name ∈ names, ¬ delimiter.toList <:+: name.toList
  ends : names.getLast? ≠ some ""

def HasColumns (t : Table) (names : List String) (types : List ColumnType) : Prop :=
  t.size = names.length ∧ ∀ (i : Nat) name type, names[i]? = some name → types[i]? = some type →
    t.columns[i]? = some (⟨lowerCase name, type⟩ : Column)

theorem splitNames_eq {delimiter : String} (nonempty : delimiter ≠ "") (text : String) :
    splitNames text delimiter =
      (dropTrailingEmpty (splitOn delimiter.toList text.toList)).map String.ofList := by
  have stands : ¬ delimiter.isEmpty := fun empty => nonempty (String.isEmpty_iff.mp empty)
  rw [splitNames, if_neg stands]

theorem getLast?_map_ofList (pieces : List (List Char)) :
    (pieces.map String.ofList).getLast? = some "" ↔ pieces.getLast? = some [] := by
  rw [List.getLast?_map, Option.map_eq_some_iff]
  constructor
  · rintro ⟨piece, last, empty⟩
    rw [last, String.ofList_eq_empty_iff.mp empty]
  · intro last
    exact ⟨[], last, rfl⟩

theorem lists_splitNames {delimiter : String} (nonempty : delimiter ≠ "") (text : String) :
    Lists text delimiter (splitNames text delimiter) := by
  have proper : delimiter.toList ≠ [] := by simpa using nonempty
  obtain ⟨count, trailing⟩ := exists_trailing (splitOn delimiter.toList text.toList)
  rw [splitNames_eq nonempty]
  refine ⟨?_, ?_, mt (getLast?_map_ofList _).mp (getLast?_dropTrailingEmpty _)⟩
  · obtain ⟨copies, written⟩ := exists_copies delimiter.toList
      (dropTrailingEmpty (splitOn delimiter.toList text.toList)) count
    rw [trailing, intercalate_splitOn proper] at written
    refine ⟨copies, String.toList_inj.mp (written.trans ?_)⟩
    simp [Function.comp_def, List.flatMap_replicate]
  · intro name member
    obtain ⟨piece, kept, rfl⟩ := List.mem_map.mp member
    have present : piece ∈ splitOn delimiter.toList text.toList := by
      rw [← trailing]
      exact List.mem_append_left _ kept
    rw [String.toList_ofList]
    exact not_infix_of_mem_splitOn proper present

theorem splitNames_joined {c : Char} {names : List String} (free : ∀ name ∈ names, c ∉ name.toList)
    (ends : names.getLast? ≠ some "") :
    splitNames (String.intercalate (String.singleton c) names) (String.singleton c) = names := by
  have same : (names.map String.toList).map String.ofList = names := by simp [Function.comp_def]
  have pieces : dropTrailingEmpty (splitOn [c] ([c].intercalate (names.map String.toList))) =
      names.map String.toList := by
    by_cases none : names = []
    · simp [none, splitOn, dropTrailingEmpty]
    · have apart : ∀ piece ∈ names.map String.toList, c ∉ piece := by simpa using free
      rw [splitOn_singleton, List.splitOn_intercalate c apart (by simpa using none)]
      apply dropTrailingEmpty_of_last
      rw [← same] at ends
      exact mt (getLast?_map_ofList _).mpr ends
  rw [splitNames_eq (by simp), String.toList_intercalate, String.toList_singleton, pieces, same]

theorem hasColumns_ofNames {names : List String} {types : List ColumnType}
    (sized : names.length = types.length) :
    ∃ t, ofNames names types = .ok t ∧ t.HasColumns names types := by
  refine ⟨_, if_pos sized, ?_, ?_⟩
  · rw [size, List.length_zipWith, ← sized, Nat.min_self]
  · intro i name type named typed
    simp only [List.getElem?_zipWith, named, typed]

/-- A text lists the names that it is split into. Names without the delimiter, a single character,
are read back from their list, so that each of them has the type at its place. -/
theorem splitNames_spec :
    (∀ text delimiter, delimiter ≠ "" → Lists text delimiter (splitNames text delimiter)) ∧
    ∀ c names, (∀ name ∈ names, c ∉ name.toList) → names.getLast? ≠ some "" →
      splitNames (String.intercalate (String.singleton c) names) (String.singleton c) = names ∧
      ∀ types, names.length = types.length →
        ∃ t, ofNames (splitNames (String.intercalate (String.singleton c) names)
          (String.singleton c)) types = .ok t ∧ t.HasColumns names types := by
  constructor
  · intro text delimiter nonempty
    exact lists_splitNames nonempty text
  · intro c names free ends
    have back := splitNames_joined free ends
    refine ⟨back, fun types sized => ?_⟩
    rw [back]
    exact hasColumns_ofNames sized

theorem splitNames_spec_overlapping :
    "aa" ≠ "" ∧ Lists "aaabaaaa" "aa" ["", "ab"] ∧
    (∀ name ∈ ["", "ID", "", "Name"], '|' ∉ name.toList) ∧
    ["", "ID", "", "Name"].getLast? ≠ some "" ∧
    splitNames "|ID||Name" "|" = ["", "ID", "", "Name"] ∧
    ∃ t, ofNames (splitNames "|ID||Name" "|")
        [.primitive .void, .primitive .int, .primitive .date, .primitive .string] = .ok t ∧
      t.columns[3]? = some ⟨"name", .primitive .string⟩ := by
  have nonempty : "aa" ≠ "" := by decide
  have names : splitNames "aaabaaaa" "aa" = ["", "ab"] := by decide +kernel
  have free : ∀ name ∈ ["", "ID", "", "Name"], '|' ∉ name.toList := by decide
  have ends : ["", "ID", "", "Name"].getLast? ≠ some "" := by decide
  obtain ⟨lists, joined⟩ := splitNames_spec
  obtain ⟨back, columns⟩ := joined '|' ["", "ID", "", "Name"] free ends
  obtain ⟨t, made, -, placed⟩ :=
    columns [.primitive .void, .primitive .int, .primitive .date, .primitive .string] rfl
  have first := lists "aaabaaaa" "aa" nonempty
  rw [names] at first
  exact ⟨nonempty, first, free, ends, back, t, made, placed 3 "Name" _ rfl rfl⟩

end RecordRows.Table
