import Mathlib.Data.List.Nodup
import RecordRows.Proofs.Positions.Entries
import RecordRows.Proofs.Positions.Landing
/-! Resolution: it fails with the fault of the first field that is refused, and else each field has
the position where it lands. -/

namespace RecordRows.Positions

open Text

variable {t : Table} {source : Schema} {p : Positions}

theorem ofInternalName_encoded {field : String} {n : Nat} (encoded : Encodes field n) :
    ofInternalName t field =
      if field = internalName (min maxPosition n) then
        if t.size ≤ min maxPosition n then
          .error (.positionOutOfRange field (min maxPosition n) t.size)
        else .ok (.column (min maxPosition n))
      else .error (.internalName field (min maxPosition n)) := by
  have same := encoded.sameIgnoringAsciiCase_iff (encodes_internalName (min maxPosition n))
  rw [ofInternalName, internalPosition?_encoded encoded]
  by_cases equal : field = internalName (min maxPosition n)
  · simp only [same.mpr equal, Bool.not_true, Bool.false_eq_true, if_false, if_pos equal]
  · have differs := Bool.eq_false_iff.mpr (fun found => equal (same.mp found))
    simp only [differs, Bool.not_false, if_true, if_neg equal]

theorem ofInternalName_plain {field : String} (plain : ∀ n, ¬ Encodes field n) :
    ofInternalName t field = .ok .unmapped := by
  rw [ofInternalName, internalPosition?_plain plain]

/-- What the name of a field comes to as an internal name. -/
inductive Outcome (t : Table) (field : String) : Except ConfigError Position → Prop
  | plain (plain : ∀ n, ¬ Encodes field n) : Outcome t field (.ok .unmapped)
  | mismatch {n : Nat} (encoded : Encodes field n)
      (never : ∀ k ≤ maxPosition, field ≠ internalName k) :
      Outcome t field (.error (.internalName field (min maxPosition n)))
  | outOfRange {k : Nat} (same : field = internalName k) (bounded : k ≤ maxPosition)
      (past : t.size ≤ k) : Outcome t field (.error (.positionOutOfRange field k t.size))
  | column {k : Nat} (same : field = internalName k) (inside : k < t.size) :
      Outcome t field (.ok (.column k))

theorem ofInternalName_outcome (t : Table) (field : String) :
    Outcome t field (ofInternalName t field) := by
  by_cases shape : ∃ n, Encodes field n
  · rcases shape with ⟨n, encoded⟩
    rw [ofInternalName_encoded encoded]
    by_cases same : field = internalName (min maxPosition n)
    · rw [if_pos same]
      by_cases past : t.size ≤ min maxPosition n
      · rw [if_pos past]
        exact .outOfRange same (Nat.min_le_left _ _) past
      · rw [if_neg past]
        exact .column same (Nat.lt_of_not_le past)
    · rw [if_neg same]
      apply Outcome.mismatch encoded
      -- A name encodes one number only, so that no other position can have it.
      intro k bounded equal
      have value : n = k := encoded.unique (equal ▸ encodes_internalName k)
      apply same
      rw [value, Nat.min_eq_right bounded]
      exact equal
  · have plain : ∀ n, ¬ Encodes field n := fun n encoded => shape ⟨n, encoded⟩
    rw [ofInternalName_plain plain]
    exact .plain plain

theorem ofInternalName_eq_error_iff {field : String} {fault : ConfigError}
    (missing : lowerCase field ∉ t.columnNames) :
    ofInternalName t field = .error fault ↔ Refused t field fault := by
  constructor
  · intro failed
    have outcome := ofInternalName_outcome t field
    rw [failed] at outcome
    cases outcome with
    | mismatch encoded never => exact .mismatch missing encoded never
    | outOfRange same bounded past =>
      subst same
      exact .outOfRange missing bounded past
  · intro refused
    cases refused with
    | mismatch _ encoded never =>
      rw [ofInternalName_encoded encoded, if_neg (never _ (Nat.min_le_left _ _))]
    | outOfRange _ bounded past =>
      rw [ofInternalName_encoded (encodes_internalName _), Nat.min_eq_right bounded, if_pos rfl,
        if_pos past]

theorem Refused.missing {name : String} {fault : ConfigError} (refused : Refused t name fault) :
    lowerCase name ∉ t.columnNames := by
  cases refused with
  | mismatch missing => exact missing
  | outOfRange missing => exact missing

theorem lands_of_ofInternalName {names : List String} {claimed : List Nat}
    (claims : ∀ k, k ∈ claimed ↔ Claimed t names k) {name : String} {position : Position}
    (missing : lowerCase name ∉ t.columnNames) (found : ofInternalName t name = .ok position) :
    Lands t names name
      (if position.ordinal?.any (claimed.contains ·) then .unmapped else position) := by
  have outcome := ofInternalName_outcome t name
  rw [found] at outcome
  cases outcome with
  | plain plain =>
    apply Lands.unknown missing
    intro k same
    exact plain k (same ▸ encodes_internalName k)
  | @column k same inside =>
    subst same
    by_cases taken : Claimed t names k
    · have member : claimed.contains k := List.contains_iff_mem.mpr ((claims k).mpr taken)
      rw [Position.ordinal?, Option.any_some, if_pos member]
      exact .claimed missing taken
    · have free : ¬ claimed.contains k := fun member =>
        taken ((claims k).mp (List.contains_iff_mem.mp member))
      rw [Position.ordinal?, Option.any_some, if_neg free]
      exact .internal missing inside taken

theorem mem_byName {t : Table} {names : List String} {key : String} {ordinal : Nat} :
    (key, ordinal) ∈ byName t names ↔
      ∃ name ∈ names, key = lowerCase name ∧ t.First (lowerCase name) ordinal := by
  simp only [byName, List.mem_filterMap, Option.map_eq_some_iff, Table.positionOf?_eq_some_iff,
    Prod.mk.injEq]
  constructor
  · intro field
    rcases field with ⟨name, member, found, first, rfl, rfl⟩
    exact ⟨name, member, rfl, first⟩
  · intro field
    rcases field with ⟨name, member, rfl, first⟩
    exact ⟨name, member, ordinal, first, rfl, rfl⟩

theorem claimed_byName (t : Table) (names : List String) (k : Nat) :
    k ∈ (byName t names).map (·.2) ↔ Claimed t names k := by
  constructor
  · intro member
    rcases List.mem_map.mp member with ⟨⟨key, ordinal⟩, found, rfl⟩
    rcases mem_byName.mp found with ⟨name, present, -, first⟩
    exact ⟨name, present, first⟩
  · intro claim
    rcases claim with ⟨name, present, first⟩
    exact List.mem_map.mpr ⟨(lowerCase name, k), mem_byName.mpr ⟨name, present, rfl, first⟩, rfl⟩

/-- Every field is refused or lands somewhere. -/
theorem lands_of_accepted {names : List String} {name : String}
    (accepted : ∀ fault, ¬ Refused t name fault) : ∃ position, Lands t names name position := by
  by_cases present : lowerCase name ∈ t.columnNames
  · rcases Table.exists_first present with ⟨ordinal, first⟩
    exact ⟨.column ordinal, .named first⟩
  · cases found : ofInternalName t name with
    | error fault => exact absurd ((ofInternalName_eq_error_iff present).mp found) (accepted fault)
    | ok position => exact ⟨_, lands_of_ofInternalName (claimed_byName t names) present found⟩

theorem byInternalName_cons (t : Table) (claimed : List Nat) (name : String) (names : List String) :
    byInternalName t claimed (name :: names) =
      if lowerCase name ∈ t.columnNames then byInternalName t claimed names
      else (ofInternalName t name).bind fun position =>
        (byInternalName t claimed names).map fun others =>
          (lowerCase name,
            if position.ordinal?.any (claimed.contains ·) then .unmapped
            else position) :: others := by
  by_cases present : lowerCase name ∈ t.columnNames
  · rcases Table.exists_first present with ⟨ordinal, first⟩
    rw [if_pos present, byInternalName, List.filter_cons_of_neg]
    · rfl
    · rw [Table.positionOf?_eq_some_iff.mpr first, Option.isNone_some]
      exact Bool.false_ne_true
  · have absent := Table.positionOf?_eq_none_iff.mpr present
    rw [if_neg present, byInternalName, List.filter_cons_of_pos (by rw [absent]; rfl),
      List.mapM_cons]
    cases ofInternalName t name with
    | error => rfl
    | ok => rfl

theorem byInternalName_cons_ok {claimed : List Nat} {name : String} {names : List String}
    (missing : lowerCase name ∉ t.columnNames) {others : List (String × Position)}
    (succeeded : byInternalName t claimed (name :: names) = .ok others) :
    ∃ position remaining, ofInternalName t name = .ok position ∧
      byInternalName t claimed names = .ok remaining ∧
      others = (lowerCase name,
        if position.ordinal?.any (claimed.contains ·) then .unmapped
        else position) :: remaining := by
  rw [byInternalName_cons, if_neg missing] at succeeded
  cases found : ofInternalName t name with
  | error =>
    rw [found] at succeeded
    cases succeeded
  | ok position =>
    cases rest : byInternalName t claimed names with
    | error =>
      rw [found, rest] at succeeded
      cases succeeded
    | ok remaining =>
      rw [found, rest] at succeeded
      cases succeeded
      exact ⟨position, remaining, rfl, rfl, rfl⟩

theorem map_eq_error_iff {ε α β : Type} {result : Except ε α} {f : α → β} {fault : ε} :
    result.map f = .error fault ↔ result = .error fault := by
  cases result <;> simp [Except.map]

/-- The first field that is refused has this fault. -/
def FirstRefused (t : Table) (names : List String) (fault : ConfigError) : Prop :=
  ∃ before name after, names = before ++ name :: after ∧ Refused t name fault ∧
    ∀ earlier ∈ before, ∀ other, ¬ Refused t earlier other

theorem not_firstRefused_nil (fault : ConfigError) : ¬ FirstRefused t [] fault := by
  intro refusal
  rcases refusal with ⟨before, name, after, parts, -⟩
  cases before <;> cases parts

theorem firstRefused_cons_of_refused {name : String} {names : List String}
    {fault other : ConfigError} (refused : Refused t name other) :
    FirstRefused t (name :: names) fault ↔ Refused t name fault := by
  constructor
  · intro refusal
    rcases refusal with ⟨before, first, after, parts, found, accepted⟩
    cases before with
    | nil =>
      rw [List.nil_append, List.cons.injEq] at parts
      rw [parts.1]
      exact found
    | cons head before =>
      rw [List.cons_append, List.cons.injEq] at parts
      rw [parts.1] at refused
      exact absurd refused (accepted head List.mem_cons_self other)
  · intro found
    exact ⟨[], name, names, rfl, found, nofun⟩

theorem firstRefused_cons_of_accepted {name : String} {names : List String} {fault : ConfigError}
    (accepted : ∀ other, ¬ Refused t name other) :
    FirstRefused t (name :: names) fault ↔ FirstRefused t names fault := by
  constructor
  · intro refusal
    rcases refusal with ⟨before, first, after, parts, found, earlier⟩
    cases before with
    | nil =>
      rw [List.nil_append, List.cons.injEq] at parts
      rw [parts.1] at accepted
      exact absurd found (accepted fault)
    | cons head before =>
      rw [List.cons_append, List.cons.injEq] at parts
      exact ⟨before, first, after, parts.2, found,
        fun name member => earlier name (List.mem_cons_of_mem head member)⟩
  · intro refusal
    rcases refusal with ⟨before, first, after, parts, found, earlier⟩
    refine ⟨name :: before, first, after, by rw [parts]; rfl, found, ?_⟩
    intro other member
    rcases List.mem_cons.mp member with same | member
    · rw [same]
      exact accepted
    · exact earlier other member

theorem firstRefused_iff_exists {names : List String} :
    (∃ fault, FirstRefused t names fault) ↔ ∃ name ∈ names, ∃ fault, Refused t name fault := by
  induction names with
  | nil => simp [not_firstRefused_nil]
  | cons name names ih =>
    by_cases refused : ∃ fault, Refused t name fault
    · rcases refused with ⟨fault, refused⟩
      constructor
      · intro _
        exact ⟨name, List.mem_cons_self, fault, refused⟩
      · intro _
        exact ⟨fault, (firstRefused_cons_of_refused refused).mpr refused⟩
    · have accepted : ∀ fault, ¬ Refused t name fault := fun fault found => refused ⟨fault, found⟩
      simp [firstRefused_cons_of_accepted accepted, ih, accepted]

theorem byInternalName_eq_error_iff {claimed : List Nat} {names : List String}
    {fault : ConfigError} :
    byInternalName t claimed names = .error fault ↔ FirstRefused t names fault := by
  induction names with
  | nil =>
    have succeeded : byInternalName t claimed [] = .ok [] := rfl
    simp [succeeded, not_firstRefused_nil]
  | cons name names ih =>
    rw [byInternalName_cons]
    by_cases present : lowerCase name ∈ t.columnNames
    · have accepted : ∀ other, ¬ Refused t name other := fun _ refused => refused.missing present
      rw [if_pos present, ih, firstRefused_cons_of_accepted accepted]
    · rw [if_neg present]
      cases found : ofInternalName t name with
      | error other =>
        have refused := (ofInternalName_eq_error_iff present).mp found
        rw [firstRefused_cons_of_refused refused, ← ofInternalName_eq_error_iff present, found,
          Except.bind, Except.error.injEq, Except.error.injEq]
      | ok position =>
        have accepted : ∀ other, ¬ Refused t name other := by
          intro other refused
          have failed := (ofInternalName_eq_error_iff present).mpr refused
          cases found.symm.trans failed
        rw [firstRefused_cons_of_accepted accepted, ← ih, Except.bind, map_eq_error_iff]

theorem mem_byInternalName {all : List String} {claimed : List Nat}
    (claims : ∀ k, k ∈ claimed ↔ Claimed t all k) {names : List String}
    {others : List (String × Position)} (succeeded : byInternalName t claimed names = .ok others)
    {key : String} {position : Position} : (key, position) ∈ others ↔
      ∃ name ∈ names, lowerCase name ∉ t.columnNames ∧ key = lowerCase name ∧
        Lands t all name position := by
  induction names generalizing others with
  | nil =>
    cases succeeded
    simp
  | cons name names ih =>
    by_cases present : lowerCase name ∈ t.columnNames
    · rw [byInternalName_cons, if_pos present] at succeeded
      rw [ih succeeded]
      simp [present]
    · rcases byInternalName_cons_ok present succeeded with ⟨own, remaining, found, rest, rfl⟩
      -- A field lands in one place only, so that its pair is the one in front.
      have lands := lands_of_ofInternalName claims present found
      rw [List.mem_cons, ih rest, Prod.mk.injEq]
      constructor
      · intro pair
        rcases pair with ⟨rfl, rfl⟩ | ⟨other, member, missing, same, landed⟩
        · exact ⟨name, List.mem_cons_self, present, rfl, lands⟩
        · exact ⟨other, List.mem_cons_of_mem name member, missing, same, landed⟩
      · intro field
        rcases field with ⟨other, member, missing, same, landed⟩
        rcases List.mem_cons.mp member with rfl | member
        · exact .inl ⟨same, landed.unique lands⟩
        · exact .inr ⟨other, member, missing, same, landed⟩

theorem resolve_eq (t : Table) (source : Schema) :
    resolve t source =
      (byInternalName t ((byName t source.names).map (·.2)) source.names).map fun others =>
        ⟨fill ((byName t source.names).map (fun (name, ordinal) => (name, .column ordinal)) ++
          others)⟩ :=
  rfl

theorem resolve_eq_error_iff {fault : ConfigError} :
    resolve t source = .error fault ↔ FirstRefused t source.names fault := by
  rw [resolve_eq, map_eq_error_iff, byInternalName_eq_error_iff]

theorem entries_eq (resolved : resolve t source = .ok p) : ∃ others,
    byInternalName t ((byName t source.names).map (·.2)) source.names = .ok others ∧
      p.entries =
        fill ((byName t source.names).map (fun (name, ordinal) => (name, .column ordinal)) ++
          others) := by
  rw [resolve_eq] at resolved
  cases succeeded : byInternalName t ((byName t source.names).map (·.2)) source.names with
  | error =>
    rw [succeeded] at resolved
    cases resolved
  | ok others =>
    rw [succeeded] at resolved
    cases resolved
    exact ⟨others, rfl, rfl⟩

/-- The pairs of a resolution: each field with the position where it lands. -/
theorem resolve_pairs (resolved : resolve t source = .ok p) : ∃ pairs, p.entries = fill pairs ∧
    ∀ key position, (key, position) ∈ pairs ↔
      ∃ name ∈ source.names, key = lowerCase name ∧ Lands t source.names name position := by
  rcases entries_eq resolved with ⟨others, succeeded, filled⟩
  refine ⟨_, filled, ?_⟩
  intro key position
  rw [List.mem_append, mem_byInternalName (claimed_byName t source.names) succeeded]
  constructor
  · intro pair
    rcases pair with named | ⟨name, member, -, same, lands⟩
    · rcases List.mem_map.mp named with ⟨⟨other, ordinal⟩, found, equal⟩
      cases equal
      rcases mem_byName.mp found with ⟨name, member, same, first⟩
      exact ⟨name, member, same, .named first⟩
    · exact ⟨name, member, same, lands⟩
  · intro field
    rcases field with ⟨name, member, rfl, lands⟩
    by_cases present : lowerCase name ∈ t.columnNames
    · rcases Table.exists_first present with ⟨ordinal, first⟩
      cases lands.unique (.named first)
      have found := mem_byName.mpr ⟨name, member, rfl, first⟩
      exact .inl (List.mem_map.mpr ⟨_, found, rfl⟩)
    · exact .inr ⟨name, member, present, rfl, lands⟩

theorem nodup_keys (resolved : resolve t source = .ok p) : (p.entries.map Prod.fst).Nodup := by
  rcases resolve_pairs resolved with ⟨pairs, filled, -⟩
  rw [filled]
  exact nodup_keys_fill pairs

theorem lands_of_lookup (resolved : resolve t source = .ok p) {key : String} {position : Position}
    (found : p.entries.lookup key = some position) :
    ∃ name ∈ source.names, key = lowerCase name ∧ Lands t source.names name position := by
  rcases resolve_pairs resolved with ⟨pairs, filled, landed⟩
  rw [filled, lookup_fill] at found
  exact (landed key position).mp (List.mem_reverse.mp (mem_of_lookup found))

theorem exists_lookup_of_mem (resolved : resolve t source = .ok p) {name : String}
    (member : name ∈ source.names) :
    ∃ position, p.entries.lookup (lowerCase name) = some position := by
  have accepted : ∀ fault, ¬ Refused t name fault := by
    intro fault refused
    rcases firstRefused_iff_exists.mpr ⟨name, member, fault, refused⟩ with ⟨first, failed⟩
    cases resolved.symm.trans (resolve_eq_error_iff.mpr failed)
  rcases lands_of_accepted accepted with ⟨position, lands⟩
  rcases resolve_pairs resolved with ⟨pairs, filled, landed⟩
  have paired := (landed (lowerCase name) position).mpr ⟨name, member, rfl, lands⟩
  rw [filled, lookup_fill]
  exact exists_lookup (List.mem_map.mpr ⟨_, List.mem_reverse.mpr paired, rfl⟩)

theorem lowerCase_key (resolved : resolve t source = .ok p) {key : String} {position : Position}
    (found : p.entries.lookup key = some position) : lowerCase key = key := by
  rcases lands_of_lookup resolved found with ⟨name, -, same, -⟩
  rw [same, lowerCase_lowerCase]

theorem position_eq (resolved : resolve t source = .ok p) (field : String) :
    p.position field = (p.entries.lookup (lowerCase field)).getD .unmapped := by
  -- Every key is in lower case, so that the second lookup alone decides.
  rw [position]
  cases found : p.entries.lookup field with
  | none => rfl
  | some own =>
    rw [lowerCase_key resolved found, found]
    rfl

theorem position_congr (resolved : resolve t source = .ok p) {field other : String}
    (same : lowerCase field = lowerCase other) : p.position field = p.position other := by
  rw [position_eq resolved, position_eq resolved, same]

theorem ordinal?_congr (resolved : resolve t source = .ok p) {field other : String}
    (same : lowerCase field = lowerCase other) : p.ordinal? field = p.ordinal? other := by
  rw [ordinal?, ordinal?, position_congr resolved same]

theorem ordinal?_eq_some_iff (resolved : resolve t source = .ok p) {field : String}
    {ordinal : Nat} : p.ordinal? field = some ordinal ↔
      p.entries.lookup (lowerCase field) = some (.column ordinal) := by
  rw [ordinal?, position_eq resolved]
  cases p.entries.lookup (lowerCase field) with
  | none => simp [Position.ordinal?]
  | some position => cases position <;> simp [Position.ordinal?]

theorem lands_of_ordinal (resolved : resolve t source = .ok p) {field : String} {ordinal : Nat}
    (positioned : p.ordinal? field = some ordinal) : ∃ name ∈ source.names,
      lowerCase field = lowerCase name ∧ Lands t source.names name (.column ordinal) :=
  lands_of_lookup resolved ((ordinal?_eq_some_iff resolved).mp positioned)

theorem exists_resolve (known : ∀ name ∈ source.names, lowerCase name ∈ t.columnNames) :
    ∃ p, resolve t source = .ok p := by
  cases result : resolve t source with
  | ok p => exact ⟨p, rfl⟩
  | error fault =>
    have failed : ∃ fault, FirstRefused t source.names fault :=
      ⟨fault, resolve_eq_error_iff.mp result⟩
    obtain ⟨name, member, fault, refused⟩ := firstRefused_iff_exists.mp failed
    exact absurd (known name member) refused.missing

theorem ordinal?_of_column (resolved : resolve t source = .ok p) (distinct : t.columnNames.Nodup)
    {name : String} (member : name ∈ source.names) {ordinal : Nat}
    (named : t.columnNames[ordinal]? = some (lowerCase name)) : p.ordinal? name = some ordinal := by
  obtain ⟨position, found⟩ := exists_lookup_of_mem resolved member
  obtain ⟨other, -, same, lands⟩ := lands_of_lookup resolved found
  have first : t.First (lowerCase other) ordinal := Table.first_of_nodup distinct (same ▸ named)
  cases lands.unique (.named first)
  exact (ordinal?_eq_some_iff resolved).mpr found

theorem ordinal_eq_iff (resolved : resolve t source = .ok p) {name other : String} {i j : Nat}
    (first : p.ordinal? name = some i) (second : p.ordinal? other = some j) :
    i = j ↔ lowerCase name = lowerCase other := by
  constructor
  · intro same
    subst same
    rcases lands_of_ordinal resolved first with ⟨field, member, cased, lands⟩
    rcases lands_of_ordinal resolved second with ⟨rival, present, folded, again⟩
    rw [cased, folded]
    exact lands.apart member present again
  · intro same
    rw [ordinal?_eq_some_iff resolved] at first second
    rw [same, second] at first
    cases first
    rfl

/-- Resolution fails exactly when some field is refused, with the fault of the first one. When it
succeeds on names that differ in lower case, each field has the position where it lands, under its
name in any case. Other names are unmapped. -/
theorem resolve_spec (t : Table) (source : Schema) :
    ((∃ fault, resolve t source = .error fault) ↔
      ∃ name ∈ source.names, ∃ fault, Refused t name fault) ∧
    (∀ fault, resolve t source = .error fault ↔ FirstRefused t source.names fault) ∧
    ∀ p, resolve t source = .ok p →
      ((source.names.map lowerCase).Nodup →
        ∀ name ∈ source.names, ∀ field, lowerCase field = lowerCase name →
          ∀ position, p.position field = position ↔ Lands t source.names name position) ∧
      ∀ field, lowerCase field ∉ source.names.map lowerCase → p.position field = .unmapped := by
  refine ⟨?_, fun fault => resolve_eq_error_iff, ?_⟩
  · simp only [resolve_eq_error_iff]
    exact firstRefused_iff_exists
  · intro p resolved
    constructor
    · intro once name member field cased position
      rcases exists_lookup_of_mem resolved member with ⟨own, found⟩
      rcases lands_of_lookup resolved found with ⟨other, present, same, lands⟩
      -- The entry may come from any field with this key; the names being distinct, from this one.
      have equal : name = other := List.inj_on_of_nodup_map once member present same
      rw [position_eq resolved, cased, found, Option.getD_some]
      rw [← equal] at lands
      constructor
      · intro same
        subst same
        exact lands
      · exact lands.unique
    · intro field foreign
      rw [position_eq resolved]
      cases found : p.entries.lookup (lowerCase field) with
      | none => rfl
      | some own =>
        rcases lands_of_lookup resolved found with ⟨name, member, same, -⟩
        exact absurd (List.mem_map.mpr ⟨name, member, same.symm⟩) foreign

def visits : Table :=
  ⟨[⟨"id", .primitive .int⟩, ⟨"name", .primitive .string⟩, ⟨"day", .primitive .date⟩]⟩

def feed : Schema := ["ID", "_col0", "_col2", "other"].map (⟨·, .string, true⟩)

theorem resolve_visits : resolve visits feed =
    .ok ⟨[("id", .column 0), ("_col0", .unmapped), ("_col2", .column 2),
      ("other", .unmapped)]⟩ := by
  rfl

theorem resolve_spec_visits : ∃ p, resolve visits feed = .ok p ∧
    (∀ name ∈ feed.names, Lands visits feed.names name (p.position name)) ∧
    p.position "day" = .unmapped := by
  have spec := resolve_spec visits feed
  rcases spec.2.2 _ resolve_visits with ⟨landed, foreign⟩
  have once : (feed.names.map lowerCase).Nodup := by decide +kernel
  refine ⟨_, resolve_visits, ?_, foreign "day" (by decide +kernel)⟩
  intro name member
  exact (landed once name member name rfl _).mp rfl

end RecordRows.Positions
