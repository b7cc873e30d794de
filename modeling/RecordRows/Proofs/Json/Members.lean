import RecordRows.Json.Inference
import RecordRows.Proofs.Lookup
/-! The members of an object: sorting keeps those of different names, and a record made of them has
a field for each. -/

namespace RecordRows.JsonValue

theorem insertMember_perm {α : Type} {members : List (String × α)} {name : String}
    (fresh : name ∉ members.map Prod.fst) (a : α) :
    (insertMember members name a).Perm ((name, a) :: members) := by
  induction members with
  | nil => exact List.Perm.refl _
  | cons member members ih =>
    obtain ⟨other, b⟩ := member
    rw [List.map_cons, List.mem_cons, not_or] at fresh
    rw [insertMember, if_neg fresh.1]
    split
    · exact List.Perm.refl _
    · exact ((ih fresh.2).cons _).trans (.swap _ _ _)

theorem foldl_insertMember_perm {α : Type} {sorted members : List (String × α)}
    (once : ((sorted ++ members).map Prod.fst).Nodup) :
    (members.foldl (fun sorted (name, a) => insertMember sorted name a) sorted).Perm
      (sorted ++ members) := by
  induction members generalizing sorted with
  | nil => simp
  | cons member members ih =>
    obtain ⟨name, a⟩ := member
    have moved : (sorted ++ (name, a) :: members).Perm ((name, a) :: sorted ++ members) :=
      List.perm_middle
    have apart : (((name, a) :: sorted ++ members).map Prod.fst).Nodup :=
      (moved.map _).nodup_iff.mp once
    have fresh : name ∉ sorted.map Prod.fst := by
      intro present
      apply (List.nodup_cons.mp apart).1
      exact List.map_append ▸ List.mem_append_left _ present
    have inserted := (insertMember_perm fresh a).append_right members
    have next : ((insertMember sorted name a ++ members).map Prod.fst).Nodup :=
      (inserted.map _).nodup_iff.mpr apart
    exact ((ih next).trans inserted).trans moved.symm

theorem sortMembers_perm {α : Type} {members : List (String × α)}
    (once : (members.map Prod.fst).Nodup) : (sortMembers members).Perm members :=
  foldl_insertMember_perm once

theorem inferFields_eq (members : List (String × JsonValue)) :
    inferFields members = members.map fun member => ⟨member.1, member.2.inferType, true⟩ := by
  induction members with
  | nil => rfl
  | cons member members ih => rw [inferFields, ih, List.map_cons]

end RecordRows.JsonValue
