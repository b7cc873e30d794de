import RecordRows.Proofs.Positions.Resolution
/-! The order of the fields: it matters only for fields of one name up to case of which one alone
has a column, by its internal name. The last of such fields counts. -/

namespace RecordRows.Positions

open Text

variable {t : Table} {source reordered : Schema} {p q : Positions}

theorem byInternalName_split {all : List String} {claimed : List Nat}
    (claims : ∀ k, k ∈ claimed ↔ Claimed t all k) {before after : List String} {name : String}
    (missing : lowerCase name ∉ t.columnNames) {others : List (String × Position)}
    (succeeded : byInternalName t claimed (before ++ name :: after) = .ok others) :
    ∃ front position back, others = front ++ (lowerCase name, position) :: back ∧
      Lands t all name position ∧ ∀ pair ∈ back, ∃ later ∈ after, pair.1 = lowerCase later := by
  induction before generalizing others with
  | nil =>
    rcases byInternalName_cons_ok missing succeeded with ⟨own, remaining, found, rest, rfl⟩
    refine ⟨[], _, remaining, rfl, lands_of_ofInternalName claims missing found, ?_⟩
    rintro ⟨key, position⟩ member
    rcases (mem_byInternalName claims rest).mp member with ⟨later, present, -, same, -⟩
    exact ⟨later, present, same⟩
  | cons head before ih =>
    by_cases present : lowerCase head ∈ t.columnNames
    · rw [List.cons_append, byInternalName_cons, if_pos present] at succeeded
      exact ih succeeded
    · rcases byInternalName_cons_ok present succeeded with ⟨own, remaining, -, rest, rfl⟩
      rcases ih rest with ⟨front, position, back, rfl, lands, behind⟩
      exact ⟨_ :: front, position, back, rfl, lands, behind⟩

theorem lookup_of_last (resolved : resolve t source = .ok p) {before after : List String}
    {name : String} {position : Position} (parts : source.names = before ++ name :: after)
    (last : ∀ later ∈ after, lowerCase later ≠ lowerCase name)
    (lands : Lands t source.names name position) :
    p.entries.lookup (lowerCase name) = some position := by
  by_cases present : lowerCase name ∈ t.columnNames
  · -- By name all of them have the same column.
    have member : name ∈ source.names := by simp [parts]
    rcases exists_lookup_of_mem resolved member with ⟨own, found⟩
    rcases lands_of_lookup resolved found with ⟨other, -, same, landed⟩
    rcases Table.exists_first present with ⟨ordinal, first⟩
    have again : Lands t source.names other (.column ordinal) := .named (same ▸ first)
    rw [found, lands.unique (.named first), landed.unique again]
  · rcases entries_eq resolved with ⟨others, succeeded, filled⟩
    have claims := claimed_byName t source.names
    generalize (byName t source.names).map (·.2) = claimed at succeeded claims
    rw [parts] at succeeded
    rcases byInternalName_split claims present succeeded with
      ⟨front, own, back, rfl, landed, behind⟩
    have fresh : ∀ pair ∈ back, pair.1 ≠ lowerCase name := by
      intro pair inside same
      rcases behind pair inside with ⟨later, found, key⟩
      exact last later found (key.symm.trans same)
    rw [filled, ← List.append_assoc, lookup_fill_last fresh, landed.unique lands]

section Reordered

variable {names others : List String}

theorem claimed_congr (same : ∀ name, name ∈ names ↔ name ∈ others) (k : Nat) :
    Claimed t names k ↔ Claimed t others k := by
  simp only [Claimed, same]

theorem Lands.congr (same : ∀ name, name ∈ names ↔ name ∈ others) {name : String}
    {position : Position} (lands : Lands t names name position) : Lands t others name position := by
  cases lands with
  | named first => exact .named first
  | @internal k missing inside free =>
    exact .internal missing inside fun taken => free ((claimed_congr same k).mpr taken)
  | @claimed k missing taken => exact .claimed missing ((claimed_congr same k).mp taken)
  | unknown missing plain => exact .unknown missing plain

end Reordered

/-- The key is an internal name that has its column, and another field has this name up to case. -/
structure Disputed (t : Table) (names : List String) (key : String) : Prop where
  present : key ∈ names
  missing : key ∉ t.columnNames
  internal : ∃ k < t.size, key = internalName k ∧ ¬ Claimed t names k
  rival : ∃ other ∈ names, other ≠ key ∧ lowerCase other = key

theorem Disputed.lands {names : List String} {key : String} (disputed : Disputed t names key) :
    ∃ k, Lands t names key (.column k) := by
  rcases disputed.internal with ⟨k, inside, rfl, free⟩
  have missing := disputed.missing
  rw [← (encodes_internalName k).lowerCase] at missing
  exact ⟨k, .internal missing inside free⟩

theorem Disputed.rival_lands {names : List String} {key : String}
    (disputed : Disputed t names key) :
    ∃ other ∈ names, lowerCase other = key ∧ Lands t names other .unmapped := by
  rcases disputed.rival with ⟨other, member, apart, rfl⟩
  refine ⟨other, member, rfl, .unknown disputed.missing ?_⟩
  -- An internal name is in lower case, and so would be the key itself.
  intro k same
  subst same
  exact apart (encodes_internalName k).lowerCase.symm

theorem disputed_of_internal {names : List String} {k : Nat} {other : String} {position : Position}
    (member : internalName k ∈ names) (present : other ∈ names)
    (missing : lowerCase (internalName k) ∉ t.columnNames) (inside : k < t.size)
    (free : ¬ Claimed t names k) (second : Lands t names other position)
    (differs : position ≠ .column k) (same : lowerCase other = lowerCase (internalName k)) :
    Disputed t names (lowerCase (internalName k)) := by
  have settled := (encodes_internalName k).lowerCase
  refine ⟨by rw [settled]; exact member, missing, ⟨k, inside, settled, free⟩, other, present,
    ?_, same⟩
  intro equal
  rw [equal, settled] at second
  exact differs (second.unique (.internal missing inside free))

theorem disputed_of_apart {names : List String} {name other : String} {position away : Position}
    (member : name ∈ names) (present : other ∈ names) (first : Lands t names name position)
    (second : Lands t names other away) (differs : position ≠ away)
    (same : lowerCase name = lowerCase other) : Disputed t names (lowerCase name) := by
  by_cases found : lowerCase name ∈ t.columnNames
  · rcases Table.exists_first found with ⟨ordinal, located⟩
    have left := first.unique (.named located)
    have right := second.unique (.named (same ▸ located))
    exact absurd (left.trans right.symm) differs
  · -- By name neither field has a column, so that one of them must have it by its internal name.
    have landed := first
    cases first with
    | named located => exact absurd located.mem found
    | internal missing inside free =>
      exact disputed_of_internal member present missing inside free second (Ne.symm differs)
        same.symm
    | claimed | unknown =>
      cases second with
      | named located => exact absurd located.mem (same ▸ found)
      | internal missing inside free =>
        rw [same]
        exact disputed_of_internal present member missing inside free landed differs same
      | claimed => exact absurd rfl differs
      | unknown => exact absurd rfl differs

/-- Both fail, or both succeed and have the same entries for these keys. -/
def AgreeOn (keys : String → Prop) :
    Except ConfigError Positions → Except ConfigError Positions → Prop
  | .error _, .error _ => True
  | .ok p, .ok q => ∀ key, keys key → p.entries.lookup key = q.entries.lookup key
  | _, _ => False

theorem AgreeOn.mono {keys wider : String → Prop} {first second : Except ConfigError Positions}
    (agree : AgreeOn keys first second)
    (within : ∀ p, first = .ok p → ∀ key, wider key → keys key) : AgreeOn wider first second := by
  cases first with
  | error =>
    cases second with
    | error => trivial
    | ok => exact agree
  | ok p =>
    cases second with
    | error => exact agree
    | ok => exact fun key included => agree key (within p rfl key included)

theorem lookup_foreign (resolved : resolve t source = .ok p) {key : String}
    (foreign : ∀ name ∈ source.names, key ≠ lowerCase name) : p.entries.lookup key = none := by
  cases found : p.entries.lookup key with
  | none => rfl
  | some own =>
    rcases lands_of_lookup resolved found with ⟨name, member, same, -⟩
    exact absurd same (foreign name member)

theorem lookup_undisputed (resolved : resolve t source = .ok p)
    (again : resolve t reordered = .ok q)
    (same : ∀ name, name ∈ source.names ↔ name ∈ reordered.names) {key : String}
    (settled : ¬ Disputed t source.names key) : p.entries.lookup key = q.entries.lookup key := by
  by_cases named : ∃ name ∈ source.names, key = lowerCase name
  · rcases named with ⟨name, member, rfl⟩
    rcases exists_lookup_of_mem resolved member with ⟨position, found⟩
    rcases exists_lookup_of_mem again ((same name).mp member) with ⟨away, located⟩
    rcases lands_of_lookup resolved found with ⟨field, present, cased, lands⟩
    rcases lands_of_lookup again located with ⟨rival, listed, folded, landed⟩
    rw [found, located, Option.some.injEq]
    by_contra differs
    apply settled
    rw [cased]
    exact disputed_of_apart present ((same rival).mpr listed) lands
      (landed.congr fun name => (same name).symm) differs (cased.symm.trans folded)
  · have foreign : ∀ name ∈ source.names, key ≠ lowerCase name :=
      fun name member equal => named ⟨name, member, equal⟩
    rw [lookup_foreign resolved foreign,
      lookup_foreign again fun name member => foreign name ((same name).mpr member)]

theorem agreeOn_undisputed (perm : source.Perm reordered) :
    AgreeOn (fun key => ¬ Disputed t source.names key) (resolve t source)
      (resolve t reordered) := by
  have same : ∀ name, name ∈ source.names ↔ name ∈ reordered.names :=
    fun name => (perm.map Field.name).mem_iff
  have failing : (∃ fault, resolve t source = .error fault) ↔
      ∃ fault, resolve t reordered = .error fault := by
    simp only [resolve_eq_error_iff, firstRefused_iff_exists, same]
  cases first : resolve t source with
  | error fault =>
    rcases failing.mp ⟨fault, first⟩ with ⟨other, second⟩
    rw [second]
    trivial
  | ok p =>
    cases second : resolve t reordered with
    | error fault =>
      rcases failing.mpr ⟨fault, second⟩ with ⟨other, refused⟩
      cases first.symm.trans refused
    | ok q =>
      intro key settled
      exact lookup_undisputed first second same settled

theorem lookup_of_agree (resolved : resolve t source = .ok p)
    (agree : ∀ reordered, source.Perm reordered →
      AgreeOn (fun _ => True) (resolve t source) (resolve t reordered))
    {name : String} {position : Position} (member : name ∈ source.names)
    (lands : Lands t source.names name position) :
    p.entries.lookup (lowerCase name) = some position := by
  -- If all orders agree, each field has the position where it lands, since it may come last.
  rcases List.mem_map.mp member with ⟨field, listed, rfl⟩
  rcases List.append_of_mem listed with ⟨before, after, parts⟩
  have perm : source.Perm (before ++ after ++ [field]) := by
    rw [parts]
    exact List.perm_middle.trans (List.perm_append_singleton field _).symm
  have agreed := agree _ perm
  rw [resolved] at agreed
  cases second : resolve t (before ++ after ++ [field]) with
  | error fault =>
    rw [second] at agreed
    exact agreed.elim
  | ok q =>
    rw [second] at agreed
    have ordered : Schema.names (before ++ after ++ [field]) =
        Schema.names (before ++ after) ++ [field.name] := List.map_append
    rw [agreed _ trivial]
    exact lookup_of_last second ordered nofun
      (lands.congr fun name => (perm.map Field.name).mem_iff)

theorem AgreeOn.position {keys : String → Prop}
    (agree : AgreeOn keys (resolve t source) (resolve t reordered))
    (resolved : resolve t source = .ok p)
    (again : resolve t reordered = .ok q) {name : String} (included : keys (lowerCase name)) :
    p.position name = q.position name := by
  rw [resolved, again] at agree
  rw [position_eq resolved, position_eq again, agree _ included]

/-- In every order of the fields resolution fails or succeeds alike, and all names keep their
positions but those that are disputed. All orders have the same positions exactly when no name
is disputed. -/
theorem resolve_reordered (t : Table) (source : Schema) :
    (∀ reordered, source.Perm reordered →
      AgreeOn (fun key => ¬ Disputed t source.names key) (resolve t source) (resolve t reordered) ∧
      ∀ p q, resolve t source = .ok p → resolve t reordered = .ok q →
        ∀ name, ¬ Disputed t source.names (lowerCase name) → p.position name = q.position name) ∧
    ((∀ reordered, source.Perm reordered →
        AgreeOn (fun _ => True) (resolve t source) (resolve t reordered)) ↔
      ∀ p, resolve t source = .ok p → ∀ key, ¬ Disputed t source.names key) := by
  refine ⟨?_, ?_, ?_⟩
  · intro reordered perm
    have agree := agreeOn_undisputed (t := t) perm
    exact ⟨agree, fun p q resolved again name settled => agree.position resolved again settled⟩
  · intro agree p resolved key disputed
    rcases disputed.lands with ⟨k, lands⟩
    rcases disputed.rival_lands with ⟨other, member, folded, landed⟩
    have settled : lowerCase key = key := by rw [← folded, lowerCase_lowerCase]
    have mapped := lookup_of_agree resolved agree disputed.present lands
    have unmapped := lookup_of_agree resolved agree member landed
    rw [settled] at mapped
    rw [folded, mapped] at unmapped
    cases unmapped
  · intro settled reordered perm
    apply (agreeOn_undisputed perm).mono
    intro p resolved key _
    exact settled p resolved key

def upperLast : Schema := ["_col0", "name", "_COL0"].map (⟨·, .string, true⟩)

def upperFirst : Schema := ["_COL0", "_col0", "name"].map (⟨·, .string, true⟩)

theorem upper_perm : upperLast.Perm upperFirst := by
  apply List.Perm.map
  decide +kernel

theorem resolve_upperLast :
    resolve visits upperLast = .ok ⟨[("name", .column 1), ("_col0", .unmapped)]⟩ := by
  rfl

theorem resolve_upperFirst :
    resolve visits upperFirst = .ok ⟨[("name", .column 1), ("_col0", .column 0)]⟩ := by
  rfl

theorem resolve_reordered_upper : upperLast.Perm upperFirst ∧
    AgreeOn (fun key => ¬ Disputed visits upperLast.names key) (resolve visits upperLast)
      (resolve visits upperFirst) :=
  ⟨upper_perm, ((resolve_reordered visits upperLast).1 upperFirst upper_perm).1⟩

/-- A later field in capitals takes the column from an internal name, an earlier one does not. -/
theorem order_matters : ¬ ∀ (t : Table) (source reordered : Schema), source.Perm reordered →
    AgreeOn (fun _ => True) (resolve t source) (resolve t reordered) := by
  intro claim
  have agree := claim visits upperLast upperFirst upper_perm
  rw [resolve_upperLast, resolve_upperFirst] at agree
  have same := agree "_col0" trivial
  cases same

end RecordRows.Positions
