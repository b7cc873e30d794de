import Mathlib.Data.List.Perm.Subperm
import RecordRows.Proofs.Positions.Resolution
/-! What every resolution satisfies: columns are not shared, and the mapped and the unmapped names
divide the keys. -/

namespace RecordRows.Positions

open Text

variable {t : Table} {source : Schema} {p : Positions}

def keys (p : Positions) : List String := p.entries.map Prod.fst

structure Invariant (t : Table) (source : Schema) (p : Positions) : Prop where
  keys : ∀ key, key ∈ p.keys ↔ ∃ name ∈ source.names, lowerCase name = key
  once : p.keys.Nodup
  inside : ∀ name ordinal, (name, .column ordinal) ∈ p.entries → ordinal < t.size
  apart : ∀ name other ordinal, (name, .column ordinal) ∈ p.entries →
    (other, .column ordinal) ∈ p.entries → name = other
  bounded : p.size ≤ t.size
  origin : ∀ name ordinal, (name, .column ordinal) ∈ p.entries →
    t.columnNames[ordinal]? = some name ∨ name = internalName ordinal ∧ name ∉ t.columnNames
  mapped : ∀ name ordinal, (name, ordinal) ∈ p.mapped ↔ (name, .column ordinal) ∈ p.entries
  mappedOnce : (p.mapped.map Prod.fst).Nodup
  ascending : p.mapped.Pairwise (·.2 < ·.2)
  unmapped : ∀ name, name ∈ p.unmapped ↔ name ∈ p.keys ∧ name ∉ p.mapped.map Prod.fst
  sorted : p.unmapped.Pairwise (· < ·)
  separate : ∀ name ∈ p.mapped.map Prod.fst, name ∉ p.unmapped

theorem filterMap_sublist_map {α β : Type} {f : α → Option β} {g : α → β}
    (agree : ∀ a b, f a = some b → g a = b) (items : List α) :
    (items.filterMap f).Sublist (items.map g) := by
  induction items with
  | nil => exact List.Sublist.slnil
  | cons item items ih =>
    rw [List.map_cons]
    cases found : f item with
    | none =>
      rw [List.filterMap_cons_none found]
      exact ih.cons _
    | some image =>
      rw [List.filterMap_cons_some found, agree item image found]
      exact ih.cons_cons _

theorem mem_mapped {name : String} {ordinal : Nat} :
    (name, ordinal) ∈ p.mapped ↔ (name, .column ordinal) ∈ p.entries := by
  rw [mapped, List.mem_mergeSort, List.mem_filterMap]
  constructor
  · intro listed
    rcases listed with ⟨⟨key, position⟩, member, found⟩
    cases position with
    | column own =>
      cases found
      exact member
    | unmapped => cases found
  · intro member
    exact ⟨(name, .column ordinal), member, rfl⟩

theorem mem_unmapped {name : String} : name ∈ p.unmapped ↔ (name, .unmapped) ∈ p.entries := by
  rw [unmapped, List.mem_mergeSort, List.mem_filterMap]
  constructor
  · intro listed
    rcases listed with ⟨⟨key, position⟩, member, found⟩
    cases position with
    | column own => cases found
    | unmapped =>
      cases found
      exact member
  · intro member
    exact ⟨(name, .unmapped), member, rfl⟩

theorem mem_keys_mapped {name : String} :
    name ∈ p.mapped.map Prod.fst ↔ ∃ ordinal, (name, .column ordinal) ∈ p.entries := by
  simp only [List.mem_map, Prod.exists, mem_mapped, exists_eq_right, exists_and_right]

theorem nodup_mapped (once : p.keys.Nodup) : (p.mapped.map Prod.fst).Nodup := by
  rw [mapped, ((List.mergeSort_perm _ _).map Prod.fst).nodup_iff, List.map_filterMap]
  apply (filterMap_sublist_map _ p.entries).nodup once
  intro entry name found
  rcases entry with ⟨key, position⟩
  cases position with
  | column own =>
    cases found
    rfl
  | unmapped => cases found

theorem nodup_unmapped (once : p.keys.Nodup) : p.unmapped.Nodup := by
  rw [unmapped, (List.mergeSort_perm _ _).nodup_iff]
  apply (filterMap_sublist_map _ p.entries).nodup once
  intro entry name found
  rcases entry with ⟨key, position⟩
  cases position with
  | column own => cases found
  | unmapped =>
    cases found
    rfl

theorem unmapped_sorted (once : p.keys.Nodup) : p.unmapped.Pairwise (· < ·) := by
  have weak : p.unmapped.Pairwise (fun a b => decide (a ≤ b)) := by
    apply List.pairwise_mergeSort
    · intro a b c
      simp only [decide_eq_true_eq]
      exact String.le_trans
    · intro a b
      simp only [Bool.or_eq_true, decide_eq_true_eq]
      exact String.le_total a b
  apply (weak.and (nodup_unmapped once)).imp
  intro a b both
  have below := of_decide_eq_true both.1
  rw [← String.not_le]
  intro above
  exact both.2 (String.le_antisymm below above)

theorem mapped_sorted (p : Positions) : p.mapped.Pairwise (·.2 ≤ ·.2) := by
  have weak : p.mapped.Pairwise (fun a b => a.2 < b.2 || (a.2 == b.2 && decide (a.1 ≤ b.1))) := by
    apply List.pairwise_mergeSort
    · intro a b c
      simp only [Bool.or_eq_true, Bool.and_eq_true, decide_eq_true_eq, beq_iff_eq]
      rintro (less | ⟨same, before⟩) (above | ⟨equal, after⟩)
      · exact .inl (Nat.lt_trans less above)
      · exact .inl (equal ▸ less)
      · exact .inl (same ▸ above)
      · exact .inr ⟨same.trans equal, String.le_trans before after⟩
    · intro a b
      simp only [Bool.or_eq_true, Bool.and_eq_true, decide_eq_true_eq, beq_iff_eq]
      rcases Nat.lt_trichotomy a.2 b.2 with less | same | greater
      · exact .inl (.inl less)
      · rcases String.le_total a.1 b.1 with before | after
        · exact .inl (.inr ⟨same, before⟩)
        · exact .inr (.inr ⟨same.symm, after⟩)
      · exact .inr (.inl greater)
  apply weak.imp
  intro a b ordered
  simp only [Bool.or_eq_true, Bool.and_eq_true, decide_eq_true_eq, beq_iff_eq] at ordered
  omega

theorem lands_of_mem (resolved : resolve t source = .ok p) {key : String} {position : Position}
    (member : (key, position) ∈ p.entries) :
    ∃ name ∈ source.names, key = lowerCase name ∧ Lands t source.names name position :=
  lands_of_lookup resolved (lookup_of_mem (nodup_keys resolved) member)

theorem mem_keys (resolved : resolve t source = .ok p) {key : String} :
    key ∈ p.keys ↔ ∃ name ∈ source.names, lowerCase name = key := by
  constructor
  · intro member
    rcases List.mem_map.mp member with ⟨⟨other, position⟩, entry, rfl⟩
    rcases lands_of_mem resolved entry with ⟨name, present, same, -⟩
    exact ⟨name, present, same.symm⟩
  · intro named
    rcases named with ⟨name, member, rfl⟩
    rcases exists_lookup_of_mem resolved member with ⟨position, found⟩
    exact List.mem_map.mpr ⟨(lowerCase name, position), mem_of_lookup found, rfl⟩

theorem entries_apart (resolved : resolve t source = .ok p) {name other : String} {ordinal : Nat}
    (first : (name, .column ordinal) ∈ p.entries) (second : (other, .column ordinal) ∈ p.entries) :
    name = other := by
  rcases lands_of_mem resolved first with ⟨field, member, rfl, lands⟩
  rcases lands_of_mem resolved second with ⟨rival, present, rfl, again⟩
  exact lands.apart member present again

theorem mem_unmapped_iff (once : p.keys.Nodup) {name : String} :
    name ∈ p.unmapped ↔ name ∈ p.keys ∧ name ∉ p.mapped.map Prod.fst := by
  rw [mem_unmapped, mem_keys_mapped]
  constructor
  · intro member
    refine ⟨List.mem_map.mpr ⟨(name, .unmapped), member, rfl⟩, ?_⟩
    intro both
    rcases both with ⟨ordinal, mapped⟩
    have found := lookup_of_mem once member
    rw [lookup_of_mem once mapped] at found
    cases found
  · intro both
    rcases both with ⟨member, others⟩
    rcases List.mem_map.mp member with ⟨⟨key, position⟩, entry, rfl⟩
    cases position with
    | column ordinal => exact absurd ⟨ordinal, entry⟩ others
    | unmapped => exact entry

theorem nodup_ordinals (resolved : resolve t source = .ok p) : (p.mapped.map Prod.snd).Nodup := by
  apply List.Nodup.map_on
  · rintro ⟨name, ordinal⟩ member ⟨other, rival⟩ present same
    cases same
    rw [entries_apart resolved (mem_mapped.mp member) (mem_mapped.mp present)]
  · exact (nodup_mapped (nodup_keys resolved)).of_map Prod.fst

theorem mapped_ascending (resolved : resolve t source = .ok p) : p.mapped.Pairwise (·.2 < ·.2) := by
  have apart : p.mapped.Pairwise (·.2 ≠ ·.2) := List.pairwise_map.mp (nodup_ordinals resolved)
  apply ((mapped_sorted p).and apart).imp
  intro a b both
  exact Nat.lt_of_le_of_ne both.1 both.2

theorem size_le (resolved : resolve t source = .ok p) : p.size ≤ t.size := by
  have inside : p.mapped.map Prod.snd ⊆ List.range t.size := by
    intro ordinal member
    rcases List.mem_map.mp member with ⟨⟨name, own⟩, present, rfl⟩
    rcases lands_of_mem resolved (mem_mapped.mp present) with ⟨field, -, -, lands⟩
    exact List.mem_range.mpr lands.lt_size
  calc
    p.size = (p.mapped.map Prod.snd).length := (List.length_map _).symm
    _ ≤ (List.range t.size).length := ((nodup_ordinals resolved).subperm inside).length_le
    _ = t.size := List.length_range

theorem resolve_invariant (resolved : resolve t source = .ok p) : Invariant t source p where
  keys _ := mem_keys resolved
  once := nodup_keys resolved
  inside name ordinal member := by
    rcases lands_of_mem resolved member with ⟨field, -, -, lands⟩
    exact lands.lt_size
  apart name other ordinal := entries_apart resolved
  bounded := size_le resolved
  origin name ordinal member := by
    rcases lands_of_mem resolved member with ⟨field, -, rfl, lands⟩
    exact lands.origin
  mapped _ _ := mem_mapped
  mappedOnce := nodup_mapped (nodup_keys resolved)
  ascending := mapped_ascending resolved
  unmapped _ := mem_unmapped_iff (nodup_keys resolved)
  sorted := unmapped_sorted (nodup_keys resolved)
  separate name mapped member := ((mem_unmapped_iff (nodup_keys resolved)).mp member).2 mapped

def rivals : Schema := ["_COL2", "Name", "_col1", "_col2", "name"].map (⟨·, .string, true⟩)

theorem resolve_rivals : resolve visits rivals =
    .ok ⟨[("name", .column 1), ("_col2", .column 2), ("_col1", .unmapped)]⟩ := by
  rfl

theorem resolve_invariant_rivals : ∃ p, resolve visits rivals = .ok p ∧ Invariant visits rivals p :=
  ⟨_, resolve_rivals, resolve_invariant resolve_rivals⟩

end RecordRows.Positions
