import RecordRows.Proofs.Lookup
import RecordRows.Table.Positions
/-! Positions as a map: each name stands once, and the last pair put for a name counts. -/

namespace RecordRows.Positions

def fill (pairs : List (String × Position)) : List (String × Position) :=
  pairs.foldl (fun known (name, position) => put known name position) []

theorem lookup_put (entries : List (String × Position)) (name other : String)
    (position : Position) : (put entries name position).lookup other =
      if other = name then some position else entries.lookup other := by
  induction entries with
  | nil => rw [put, lookup_pair, List.lookup_nil]
  | cons entry entries ih =>
    rcases entry with ⟨first, old⟩
    rw [put]
    by_cases same : first = name
    · rw [if_pos same, lookup_pair, lookup_pair, same]
      by_cases found : other = name
      · rw [if_pos found, if_pos found]
      · rw [if_neg found, if_neg found, if_neg found]
    · rw [if_neg same, lookup_pair, lookup_pair, ih]
      by_cases found : other = first
      · have apart : other ≠ name := by
          intro equal
          exact same (found.symm.trans equal)
        rw [if_pos found, if_neg apart, if_pos found]
      · rw [if_neg found, if_neg found]

theorem mem_keys_put (entries : List (String × Position)) (name other : String)
    (position : Position) : other ∈ (put entries name position).map Prod.fst ↔
      other = name ∨ other ∈ entries.map Prod.fst := by
  induction entries with
  | nil => simp [put]
  | cons entry entries ih =>
    rcases entry with ⟨first, old⟩
    rw [put]
    by_cases same : first = name
    · rw [if_pos same, same]
      simp
    · rw [if_neg same, List.map_cons, List.mem_cons, ih, List.map_cons, List.mem_cons]
      exact or_left_comm

theorem nodup_keys_put {entries : List (String × Position)}
    (once : (entries.map Prod.fst).Nodup) (name : String) (position : Position) :
    ((put entries name position).map Prod.fst).Nodup := by
  induction entries with
  | nil => simp [put]
  | cons entry entries ih =>
    rcases entry with ⟨first, old⟩
    have fresh := (List.nodup_cons.mp once).1
    have rest := (List.nodup_cons.mp once).2
    rw [put]
    by_cases same : first = name
    · rw [if_pos same, ← same]
      exact once
    · rw [if_neg same]
      apply List.nodup_cons.mpr
      constructor
      · intro member
        rcases (mem_keys_put entries name first position).mp member with equal | present
        · exact same equal
        · exact fresh present
      · exact ih rest

theorem nodup_keys_foldl (pairs : List (String × Position)) {known : List (String × Position)}
    (once : (known.map Prod.fst).Nodup) :
    ((pairs.foldl (fun known (name, position) => put known name position) known).map
      Prod.fst).Nodup := by
  induction pairs generalizing known with
  | nil => exact once
  | cons pair pairs ih => exact ih (nodup_keys_put once pair.1 pair.2)

theorem nodup_keys_fill (pairs : List (String × Position)) : ((fill pairs).map Prod.fst).Nodup :=
  nodup_keys_foldl pairs List.nodup_nil

theorem lookup_foldl (pairs : List (String × Position)) (known : List (String × Position))
    (name : String) :
    (pairs.foldl (fun known (name, position) => put known name position) known).lookup name =
      (pairs.reverse.lookup name).or (known.lookup name) := by
  induction pairs generalizing known with
  | nil => simp
  | cons pair pairs ih =>
    rcases pair with ⟨first, position⟩
    rw [List.foldl_cons, ih, lookup_put, List.reverse_cons, List.lookup_append, Option.or_assoc,
      lookup_pair]
    by_cases same : name = first
    · rw [if_pos same, if_pos same, Option.some_or]
    · rw [if_neg same, if_neg same, List.lookup_nil, Option.none_or]

theorem lookup_fill (pairs : List (String × Position)) (name : String) :
    (fill pairs).lookup name = pairs.reverse.lookup name := by
  rw [fill, lookup_foldl, List.lookup_nil, Option.or_none]

theorem lookup_fill_last {front back : List (String × Position)} {name : String}
    {position : Position} (last : ∀ pair ∈ back, pair.1 ≠ name) :
    (fill (front ++ (name, position) :: back)).lookup name = some position := by
  have absent : back.reverse.lookup name = none := by
    rw [List.lookup_eq_none_iff]
    intro pair member
    have apart := last pair (List.mem_reverse.mp member)
    simpa using Ne.symm apart
  rw [lookup_fill, List.reverse_append, List.reverse_cons, List.lookup_append, List.lookup_append,
    absent, Option.none_or, List.lookup_cons_self, Option.some_or]

theorem exists_lookup {entries : List (String × Position)} {name : String}
    (present : name ∈ entries.map Prod.fst) : ∃ position, entries.lookup name = some position := by
  cases found : entries.lookup name with
  | some position => exact ⟨position, rfl⟩
  | none =>
    rcases List.mem_map.mp present with ⟨entry, member, same⟩
    have apart := List.lookup_eq_none_iff.mp found entry member
    simp [same] at apart

end RecordRows.Positions
