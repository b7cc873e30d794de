/-! Looking up names in lists of pairs: the first pair of a name counts. -/

namespace RecordRows

variable {α : Type}

theorem lookup_pair (entries : List (String × α)) (name other : String) (a : α) :
    ((name, a) :: entries).lookup other =
      if other = name then some a else entries.lookup other := by
  by_cases same : other = name
  · rw [if_pos same, same, List.lookup_cons_self]
  · rw [if_neg same, List.lookup_cons, beq_eq_false_iff_ne.mpr same]

theorem mem_of_lookup {entries : List (String × α)} {name : String} {a : α}
    (found : entries.lookup name = some a) : (name, a) ∈ entries := by
  rcases List.lookup_eq_some_iff.mp found with ⟨before, after, parts, -⟩
  simp [parts]

theorem lookup_of_mem {entries : List (String × α)} (once : (entries.map Prod.fst).Nodup)
    {name : String} {a : α} (member : (name, a) ∈ entries) : entries.lookup name = some a := by
  induction entries with
  | nil => cases member
  | cons entry entries ih =>
    rcases entry with ⟨first, old⟩
    have fresh := (List.nodup_cons.mp once).1
    have rest := (List.nodup_cons.mp once).2
    rw [lookup_pair]
    rcases List.mem_cons.mp member with same | present
    · cases same
      exact if_pos rfl
    · have apart : name ≠ first := by
        intro equal
        apply fresh
        exact List.mem_map.mpr ⟨(name, a), present, equal⟩
      rw [if_neg apart]
      exact ih rest present

end RecordRows
