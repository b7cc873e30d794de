import RecordRows.Proofs.Positions.InternalName
/-! Where the fields of a schema belong: the column of a name, the fields that are refused, and the
position of each other field. -/

namespace RecordRows

open Text

namespace Table

def columnNames (t : Table) : List String := t.columns.map (·.name)

def First (t : Table) (name : String) (ordinal : Nat) : Prop :=
  t.columnNames[ordinal]? = some name ∧ ∀ earlier < ordinal, t.columnNames[earlier]? ≠ some name

theorem length_columnNames (t : Table) : t.columnNames.length = t.size := List.length_map _

theorem positionOf?_eq (t : Table) (name : String) :
    t.positionOf? name = t.columnNames.findIdx? (· == name) := by
  rw [positionOf?, columnNames, List.findIdx?_map]
  rfl

theorem positionOf?_eq_none_iff {t : Table} {name : String} :
    t.positionOf? name = none ↔ name ∉ t.columnNames := by
  rw [positionOf?_eq, List.findIdx?_eq_none_iff]
  constructor
  · intro apart member
    simpa using apart name member
  · intro missing other member
    apply beq_eq_false_iff_ne.mpr
    intro same
    subst same
    exact missing member

theorem positionOf?_eq_some_iff {t : Table} {name : String} {ordinal : Nat} :
    t.positionOf? name = some ordinal ↔ t.First name ordinal := by
  rw [positionOf?_eq, List.findIdx?_eq_some_iff_getElem]
  constructor
  · intro located
    rcases located with ⟨inside, found, others⟩
    constructor
    · rw [List.getElem?_eq_getElem inside, eq_of_beq found]
    · intro earlier before same
      rcases List.getElem?_eq_some_iff.mp same with ⟨bound, equal⟩
      exact others earlier before (beq_iff_eq.mpr equal)
  · intro first
    rcases first with ⟨found, others⟩
    rcases List.getElem?_eq_some_iff.mp found with ⟨inside, equal⟩
    refine ⟨inside, beq_iff_eq.mpr equal, ?_⟩
    intro earlier before same
    apply others earlier before
    rw [List.getElem?_eq_getElem (Nat.lt_trans before inside), eq_of_beq same]

theorem First.mem {t : Table} {name : String} {ordinal : Nat} (first : t.First name ordinal) :
    name ∈ t.columnNames :=
  List.mem_of_getElem? first.1

theorem First.lt_size {t : Table} {name : String} {ordinal : Nat} (first : t.First name ordinal) :
    ordinal < t.size := by
  rcases List.getElem?_eq_some_iff.mp first.1 with ⟨inside, -⟩
  rw [← length_columnNames]
  exact inside

theorem First.unique {t : Table} {name : String} {ordinal other : Nat}
    (first : t.First name ordinal) (second : t.First name other) : ordinal = other := by
  have found := positionOf?_eq_some_iff.mpr first
  have again := positionOf?_eq_some_iff.mpr second
  exact Option.some.inj (found.symm.trans again)

theorem first_of_nodup {t : Table} (distinct : t.columnNames.Nodup) {name : String} {ordinal : Nat}
    (named : t.columnNames[ordinal]? = some name) : t.First name ordinal := by
  refine ⟨named, fun earlier before again => ?_⟩
  have inside : earlier < t.columnNames.length := (List.getElem?_eq_some_iff.mp again).1
  have same : earlier = ordinal := (List.getElem?_inj inside distinct).mp (again.trans named.symm)
  omega

theorem exists_first {t : Table} {name : String} (member : name ∈ t.columnNames) :
    ∃ ordinal, t.First name ordinal := by
  cases found : t.positionOf? name with
  | none => exact absurd member (positionOf?_eq_none_iff.mp found)
  | some ordinal => exact ⟨ordinal, positionOf?_eq_some_iff.mp found⟩

end Table

namespace Positions

/-- Some field has the column by name. -/
def Claimed (t : Table) (names : List String) (ordinal : Nat) : Prop :=
  ∃ name ∈ names, t.First (lowerCase name) ordinal

/-- The fault of a field that has no column by name: its own name has the form of an internal one
but is the name of no position, or it is the name of a position past the last column. -/
inductive Refused (t : Table) : String → ConfigError → Prop
  | mismatch {name : String} {n : Nat} (missing : lowerCase name ∉ t.columnNames)
      (encoded : Encodes name n) (never : ∀ k ≤ maxPosition, name ≠ internalName k) :
      Refused t name (.internalName name (min maxPosition n))
  | outOfRange {k : Nat} (missing : lowerCase (internalName k) ∉ t.columnNames)
      (bounded : k ≤ maxPosition) (past : t.size ≤ k) :
      Refused t (internalName k) (.positionOutOfRange (internalName k) k t.size)

/-- Where a field that is not refused lands. -/
inductive Lands (t : Table) (names : List String) : String → Position → Prop
  | named {name : String} {ordinal : Nat} (first : t.First (lowerCase name) ordinal) :
      Lands t names name (.column ordinal)
  | internal {k : Nat} (missing : lowerCase (internalName k) ∉ t.columnNames) (inside : k < t.size)
      (free : ¬ Claimed t names k) : Lands t names (internalName k) (.column k)
  | claimed {k : Nat} (missing : lowerCase (internalName k) ∉ t.columnNames)
      (taken : Claimed t names k) : Lands t names (internalName k) .unmapped
  | unknown {name : String} (missing : lowerCase name ∉ t.columnNames)
      (plain : ∀ k, name ≠ internalName k) : Lands t names name .unmapped

theorem Lands.unique {t : Table} {names : List String} {name : String} {position other : Position}
    (first : Lands t names name position) (second : Lands t names name other) :
    position = other := by
  cases first with
  | named found =>
    cases second with
    | named again => rw [found.unique again]
    | internal missing => exact absurd found.mem missing
    | claimed missing => exact absurd found.mem missing
    | unknown missing => exact absurd found.mem missing
  | @internal k missing inside free =>
    generalize same : internalName k = name at second
    cases second with
    | named again => exact absurd again.mem (same ▸ missing)
    | internal => rw [internalName_injective same]
    | claimed _ taken => exact absurd (internalName_injective same ▸ taken) free
    | unknown _ plain => exact absurd same.symm (plain k)
  | @claimed k missing taken =>
    generalize same : internalName k = name at second
    cases second with
    | named again => exact absurd again.mem (same ▸ missing)
    | internal _ _ free => exact absurd (internalName_injective same ▸ taken) free
    | claimed => rfl
    | unknown => rfl
  | unknown missing plain =>
    cases second with
    | named again => exact absurd again.mem missing
    | internal => exact absurd rfl (plain _)
    | claimed => rfl
    | unknown => rfl

theorem Lands.lt_size {t : Table} {names : List String} {name : String} {ordinal : Nat}
    (lands : Lands t names name (.column ordinal)) : ordinal < t.size := by
  cases lands with
  | named first => exact first.lt_size
  | internal _ inside => exact inside

/-- No column is shared: by name only one key reaches it, and an internal name yields to
that one. -/
theorem Lands.apart {t : Table} {names : List String} {name other : String} {ordinal : Nat}
    (member : name ∈ names) (present : other ∈ names) (first : Lands t names name (.column ordinal))
    (second : Lands t names other (.column ordinal)) : lowerCase name = lowerCase other := by
  cases first with
  | named found =>
    cases second with
    | named again => exact Option.some.inj (found.1.symm.trans again.1)
    | internal _ _ free => exact absurd ⟨name, member, found⟩ free
  | internal _ _ free =>
    cases second with
    | named again => exact absurd ⟨other, present, again⟩ free
    | internal => rfl

theorem Lands.origin {t : Table} {names : List String} {name : String} {ordinal : Nat}
    (lands : Lands t names name (.column ordinal)) :
    t.columnNames[ordinal]? = some (lowerCase name) ∨
      lowerCase name = internalName ordinal ∧ lowerCase name ∉ t.columnNames := by
  cases lands with
  | named first => exact .inl first.1
  | internal missing => exact .inr ⟨(encodes_internalName ordinal).lowerCase, missing⟩

end Positions

end RecordRows
