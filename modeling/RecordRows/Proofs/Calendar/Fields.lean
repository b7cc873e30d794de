import Mathlib.Tactic.ByContra
import RecordRows.Calendar.Reader
/-! What a text gives by the items of a pattern: each item gives values to its own fields, and what
it has given stays. -/

namespace RecordRows.Calendar

open Text

namespace Fields

def InRange (fs : Fields) : Prop := ∀ f v, fs.get? f = some v → f.range.1 ≤ v ∧ v ≤ f.range.2

/-- What reading does to the fields: it gives values to some of them. The nanoseconds may go without
one, as the decimals of a second may be missing in a text. -/
structure Adds (fs next : Fields) (given : List Field) : Prop where
  kept : ∀ f v, fs.get? f = some v → next.get? f = some v
  added : ∀ f ∈ given, f ≠ .nanosecond → (next.get? f).isSome
  only : ∀ f, f ∉ given → next.get? f = fs.get? f
  inRange : fs.InRange → next.InRange

theorem Adds.refl (fs : Fields) : Adds fs fs [] where
  kept _ _ present := present
  added := nofun
  only _ _ := rfl
  inRange inside := inside

theorem Adds.skip (fs : Fields) : Adds fs fs [.nanosecond] where
  kept _ _ present := present
  added _ member other := absurd (List.mem_singleton.mp member) other
  only _ _ := rfl
  inRange inside := inside

theorem Adds.trans {fs mid next : Fields} {before after : List Field} (first : Adds fs mid before)
    (second : Adds mid next after) : Adds fs next (before ++ after) where
  kept f v present := second.kept f v (first.kept f v present)
  added f member other := by
    rcases List.mem_append.mp member with early | late
    · obtain ⟨v, present⟩ := Option.isSome_iff_exists.mp (first.added f early other)
      exact Option.isSome_iff_exists.mpr ⟨v, second.kept f v present⟩
    · exact second.added f late other
  only f absent := by
    rw [List.mem_append, not_or] at absent
    rw [second.only f absent.2, first.only f absent.1]
  inRange inside := second.inRange (first.inRange inside)

section Storing

variable {fs next : Fields} {f : Field} {value : Int}

theorem put?_inside (stored : fs.put? f value = some next) :
    f.range.1 ≤ value ∧ value ≤ f.range.2 := by
  unfold put? at stored
  split at stored
  · assumption
  · cases stored

theorem get?_put? (stored : fs.put? f value = some next) (g : Field) :
    next.get? g = if g = f then some value else fs.get? g := by
  rw [put?, if_pos (put?_inside stored)] at stored
  split at stored
  · cases stored
    rw [get?, List.lookup_cons]
    split
    · next same => rw [if_pos (beq_iff_eq.mp same)]
    · next other => rw [if_neg (beq_eq_false_iff_ne.mp other), get?]
  · next earlier present =>
    split at stored
    · next equal =>
      cases stored
      split
      · next same => rw [same, present, equal]
      · rfl
    · cases stored

theorem put?_agrees {earlier : Int} (stored : fs.put? f value = some next)
    (present : fs.get? f = some earlier) : earlier = value := by
  rw [put?, if_pos (put?_inside stored), present] at stored
  dsimp only at stored
  split at stored
  · assumption
  · cases stored

theorem adds_put? (stored : fs.put? f value = some next) : Adds fs next [f] where
  kept g v present := by
    rw [get?_put? stored]
    split
    · next same =>
      subst same
      rw [put?_agrees stored present]
    · exact present
  added g member _ := by
    rw [get?_put? stored, if_pos (List.mem_singleton.mp member)]
    rfl
  only g absent := by rw [get?_put? stored, if_neg (by simpa using absent)]
  inRange inside g v present := by
    rw [get?_put? stored] at present
    split at present
    · next same =>
      cases present
      exact same ▸ put?_inside stored
    · exact inside g v present

theorem putHour?_eq_some (stored : fs.putHour? value = some next) :
    ∃ mid, fs.put? .halfDay (value / 12) = some mid ∧
      mid.put? .hourOfHalf (value % 12) = some next := by
  unfold putHour? at stored
  split at stored
  · exact Option.bind_eq_some_iff.mp stored
  · cases stored

theorem adds_putHour? (stored : fs.putHour? value = some next) :
    Adds fs next [.halfDay, .hourOfHalf] := by
  obtain ⟨mid, half, hour⟩ := putHour?_eq_some stored
  exact (adds_put? half).trans (adds_put? hour)

end Storing

end Fields

open Fields

def Number.fields : Number → List Field
  | .year => [.year]
  | .century => [.century]
  | .yearOfCentury => [.yearOfCentury]
  | .isoYear => [.isoYear]
  | .isoYearOfCentury => [.isoYearOfCentury]
  | .quarter => [.quarter]
  | .month => [.month]
  | .day => [.day]
  | .ordinal => [.ordinal]
  | .sundayWeek => [.sundayWeek]
  | .mondayWeek => [.mondayWeek]
  | .isoWeek => [.isoWeek]
  | .weekdayFromSunday | .weekdayFromMonday => [.weekday]
  | .hour => [.halfDay, .hourOfHalf]
  | .hour12 => [.hourOfHalf]
  | .minute => [.minute]
  | .second => [.second]
  | .nanosecond => [.nanosecond]
  | .epochSecond => [.epochSecond]

def Item.fields : Item → List Field
  | .number n => n.fields
  | .monthName _ => [.month]
  | .weekdayName _ => [.weekday]
  | .halfDay => [.halfDay]
  | .fraction | .fractionAfterPoint _ | .fractionDigits _ => [.nanosecond]
  | .offset _ | .zone => [.offset]
  | .literal _ | .space | .zoneName | .timeMark => []

section Steps

variable {fs next : Fields} {cs rest : List Char}

theorem Number.adds_put? {n : Number} {value : Int} (stored : n.put? fs value = some next) :
    Adds fs next n.fields := by
  cases n
  case hour => exact adds_putHour? stored
  case weekdayFromSunday | hour12 =>
    simp only [put?] at stored
    split at stored
    · exact Fields.adds_put? stored
    · cases stored
  all_goals exact Fields.adds_put? stored

theorem read_stored (store : Int → Option Fields) {read : Option (Int × List Char)}
    (taken : (do
      let (value, cs) ← read
      return (← store value, cs)) = some (next, rest)) :
    ∃ value, read = some (value, rest) ∧ store value = some next := by
  obtain ⟨⟨value, left⟩, found, taken⟩ := Option.bind_eq_some_iff.mp taken
  obtain ⟨stored, store, same⟩ := Option.bind_eq_some_iff.mp taken
  cases same
  exact ⟨value, found, store⟩

/-- One item gives its own fields and changes no other ones. -/
theorem Item.adds_take? {item : Item} (taken : item.take? fs cs = some (next, rest)) :
    Adds fs next item.fields := by
  cases item
  case number n =>
    obtain ⟨value, -, stored⟩ := read_stored (n.put? fs ·) taken
    exact Number.adds_put? stored
  case monthName =>
    obtain ⟨i, -, stored⟩ := read_stored (fs.put? .month <| · + 1) taken
    exact Fields.adds_put? stored
  case weekdayName | halfDay | fractionDigits | offset | zone =>
    obtain ⟨value, -, stored⟩ := read_stored (fs.put? _ ·) taken
    exact Fields.adds_put? stored
  case fraction | fractionAfterPoint =>
    simp only [take?] at taken
    split at taken
    · obtain ⟨nano, -, stored⟩ := read_stored (fs.put? .nanosecond ·) taken
      exact Fields.adds_put? stored
    · cases taken
      exact .skip fs
  case space | zoneName =>
    cases taken
    exact .refl fs
  case literal | timeMark =>
    simp only [take?] at taken
    split at taken
    · split at taken
      · cases taken
        exact .refl fs
      · cases taken
    · cases taken

end Steps

def takeItems? (fs : Fields) : List Item → List Char → Option (Fields × List Char)
  | [], cs => some (fs, cs)
  | item :: items, cs => (item.take? fs cs).bind fun (fs, cs) => takeItems? fs items cs

theorem readItems?_eq_some_iff {items : List Item} {fs final : Fields} {cs : List Char} :
    readItems? fs items cs = some final ↔ takeItems? fs items cs = some (final, []) := by
  induction items generalizing fs cs with
  | nil => simp [readItems?, takeItems?, and_comm]
  | cons item items ih => simp [readItems?, takeItems?, Option.bind_eq_some_iff, ih]

theorem takeItems?_append (fs : Fields) (before after : List Item) (cs : List Char) :
    takeItems? fs (before ++ after) cs =
      (takeItems? fs before cs).bind fun (fs, cs) => takeItems? fs after cs := by
  induction before generalizing fs cs with
  | nil => rfl
  | cons item before ih => simp only [List.cons_append, takeItems?, ih, Option.bind_assoc]

theorem adds_takeItems? {items : List Item} {fs final : Fields} {cs rest : List Char}
    (taken : takeItems? fs items cs = some (final, rest)) :
    Adds fs final (items.flatMap Item.fields) := by
  induction items generalizing fs cs with
  | nil =>
    cases taken
    exact .refl final
  | cons item items ih =>
    obtain ⟨⟨mid, left⟩, first, later⟩ := Option.bind_eq_some_iff.mp taken
    exact (Item.adds_take? first).trans (ih later)

/-- The items come to one of theirs when a rest of the text is left. -/
def Reaches (items : List Item) (text : List Char) (item : Item) (rest : List Char) : Prop :=
  ∃ before after fs, items = before ++ item :: after ∧
    takeItems? .empty before text = some (fs, rest)

/-- The value that a text has for a number of the items. -/
def Gives (items : List Item) (text : List Char) (n : Number) (value : Int) : Prop :=
  ∃ cs rest, Reaches items text (.number n) cs ∧ n.take (trimStart cs) = some (value, rest)

section Reading

variable {items : List Item} {text cs : List Char} {fs : Fields} {item : Item}

theorem adds_readItems? (read : readItems? .empty items text = some fs) :
    Adds .empty fs (items.flatMap Item.fields) :=
  adds_takeItems? (readItems?_eq_some_iff.mp read)

theorem inRange_readItems? (read : readItems? .empty items text = some fs) : fs.InRange :=
  (adds_readItems? read).inRange nofun

theorem take?_of_reaches (read : readItems? .empty items text = some fs)
    (reached : Reaches items text item cs) :
    ∃ earlier next rest given, item.take? earlier cs = some (next, rest) ∧ Adds next fs given := by
  obtain ⟨before, after, earlier, rfl, taken⟩ := reached
  have whole := readItems?_eq_some_iff.mp read
  rw [takeItems?_append, taken, Option.bind_some] at whole
  obtain ⟨⟨next, rest⟩, own, later⟩ := Option.bind_eq_some_iff.mp whole
  exact ⟨earlier, next, rest, _, own, adds_takeItems? later⟩

theorem reaches_of_mem (read : readItems? .empty items text = some fs) (member : item ∈ items) :
    ∃ cs, Reaches items text item cs := by
  obtain ⟨before, after, rfl⟩ := List.append_of_mem member
  have whole := readItems?_eq_some_iff.mp read
  rw [takeItems?_append] at whole
  obtain ⟨⟨earlier, cs⟩, taken, -⟩ := Option.bind_eq_some_iff.mp whole
  exact ⟨cs, before, after, earlier, rfl, taken⟩

theorem put?_of_gives {n : Number} {value : Int} (read : readItems? .empty items text = some fs)
    (gives : Gives items text n value) :
    ∃ earlier next given, n.put? earlier value = some next ∧ Adds next fs given := by
  obtain ⟨cs, left, reached, found⟩ := gives
  obtain ⟨earlier, next, rest, given, taken, adds⟩ := take?_of_reaches read reached
  obtain ⟨own, same, stored⟩ := read_stored (n.put? earlier ·) taken
  cases found.symm.trans same
  exact ⟨earlier, next, given, stored, adds⟩

theorem exists_gives {n : Number} (read : readItems? .empty items text = some fs)
    (member : .number n ∈ items) : ∃ value, Gives items text n value := by
  obtain ⟨cs, reached⟩ := reaches_of_mem read member
  obtain ⟨earlier, next, rest, given, taken, -⟩ := take?_of_reaches read reached
  obtain ⟨value, found, -⟩ := read_stored (n.put? earlier ·) taken
  exact ⟨value, cs, rest, reached, found⟩

theorem isSome_get?_iff {f : Field} (read : readItems? .empty items text = some fs)
    (other : f ≠ .nanosecond) : (fs.get? f).isSome ↔ ∃ item ∈ items, f ∈ item.fields := by
  have adds := adds_readItems? read
  rw [← List.mem_flatMap]
  constructor
  · intro present
    by_contra absent
    rw [adds.only f absent] at present
    cases present
  · intro member
    exact adds.added f member other

end Reading

end RecordRows.Calendar
