import RecordRows.Proofs.Calendar.Fields
import RecordRows.Proofs.Calendar.RoundTrip
/-! The time of day of a read timestamp: what a text gives of it, and where midnight stands
for it. -/

namespace RecordRows.Calendar

open Text Fields

namespace Fields

variable {fs next : Fields} {t : Time} {ts : Timestamp}

structure HasTime (fs : Fields) : Prop where
  halfDay : (fs.get? .halfDay).isSome
  hourOfHalf : (fs.get? .hourOfHalf).isSome
  minute : (fs.get? .minute).isSome
  second : (fs.get? .nanosecond).isSome → (fs.get? .second).isSome

/-- A time of day has what the fields say of it. Only second 60 makes it a leap second. -/
structure Shows (fs : Fields) (t : Time) : Prop where
  kept : ¬ t.Stray
  halfDay : ∀ v, fs.get? .halfDay = some v → (t.hour : Int) / 12 = v
  hourOfHalf : ∀ v, fs.get? .hourOfHalf = some v → (t.hour : Int) % 12 = v
  minute : ∀ v, fs.get? .minute = some v → (t.minute : Int) = v
  second : ∀ v, fs.get? .second = some v → (shownSecond t : Int) = v

theorem Shows.mono {given : List Field} (adds : Adds fs next given) (shows : next.Shows t) :
    fs.Shows t where
  kept := shows.kept
  halfDay v present := shows.halfDay v (adds.kept _ v present)
  hourOfHalf v present := shows.hourOfHalf v (adds.kept _ v present)
  minute v present := shows.minute v (adds.kept _ v present)
  second v present := shows.second v (adds.kept _ v present)

theorem exists_second_nano {second nano : Int} (seconds : 0 ≤ second ∧ second ≤ 60)
    (nanos : 0 ≤ nano ∧ nano ≤ 999999999) :
    ∃ s n : Nat,
      (if second = 60 then (59, nano + 1000000000) else (second, nano)) = ((s : Int), (n : Int)) ∧
        (s < 60 ∧ n < 2000000000 ∧ (n < 1000000000 ∨ s = 59)) ∧
        (if 1000000000 ≤ n then s + 1 else s : Nat) = second := by
  by_cases leap : second = 60
  · refine ⟨59, (nano + 1000000000).toNat, ?_, ⟨by decide, by omega, .inr rfl⟩, ?_⟩
    · rw [if_pos leap, Int.toNat_of_nonneg (by omega)]
      rfl
    · rw [if_pos (by omega), leap]
      rfl
  · refine ⟨second.toNat, nano.toNat, ?_, ⟨by omega, by omega, .inl (by omega)⟩, ?_⟩
    · rw [if_neg leap, Int.toNat_of_nonneg seconds.1, Int.toNat_of_nonneg nanos.1]
    · rw [if_neg (by omega)]
      omega

theorem getD_inside (inside : fs.InRange) {f : Field} (zero : f.range.1 ≤ 0 ∧ 0 ≤ f.range.2) :
    f.range.1 ≤ (fs.get? f).getD 0 ∧ (fs.get? f).getD 0 ≤ f.range.2 := by
  cases present : fs.get? f with
  | none => exact zero
  | some v => exact inside f v present

theorem time_ok (inside : fs.InRange) (enough : fs.HasTime) :
    ∃ t, fs.time = .ok t ∧ fs.Shows t := by
  obtain ⟨half, halfDay⟩ := Option.isSome_iff_exists.mp enough.halfDay
  obtain ⟨hour, hourOfHalf⟩ := Option.isSome_iff_exists.mp enough.hourOfHalf
  obtain ⟨minute, minutes⟩ := Option.isSome_iff_exists.mp enough.minute
  have halfRange : 0 ≤ half ∧ half ≤ 1 := inside .halfDay half halfDay
  have hourRange : 0 ≤ hour ∧ hour ≤ 11 := inside .hourOfHalf hour hourOfHalf
  have minuteRange : 0 ≤ minute ∧ minute ≤ 59 := inside .minute minute minutes
  obtain ⟨s, n, pair, bounds, shown⟩ :=
    exists_second_nano (getD_inside inside (by decide : Field.second.range.1 ≤ 0 ∧ _))
      (getD_inside inside (by decide : Field.nanosecond.range.1 ≤ 0 ∧ _))
  have decimals : ((fs.get? .nanosecond).isSome && (fs.get? .second).isNone) = false := by
    cases fraction : (fs.get? .nanosecond).isSome with
    | false => rfl
    | true => rw [Bool.true_and, Option.isNone_eq_false_iff, enough.second fraction]
  have hours : (half * 12 + hour).toNat < 24 := by omega
  have under : minute.toNat < 60 := by omega
  refine ⟨⟨_, _, s, n, hours, under, bounds.1, bounds.2.1⟩, ?_, ?_⟩
  · simp only [time, halfDay, hourOfHalf, minutes, decimals, pair, Int.toNat_natCast, Time.of?]
    rw [dif_pos ⟨⟨hours, under, bounds.1⟩, bounds.2⟩]
    rfl
  · have own {f : Field} {v w : Int} (left : fs.get? f = some v) (right : fs.get? f = some w) :
        v = w :=
      Option.some.inj (left.symm.trans right)
    constructor
    case kept => exact Time.not_stray_iff.mpr bounds.2.2
    case halfDay =>
      intro v present
      have same := own halfDay present
      dsimp only
      omega
    case hourOfHalf =>
      intro v present
      have same := own hourOfHalf present
      dsimp only
      omega
    case minute =>
      intro v present
      have same := own minutes present
      dsimp only
      omega
    case second =>
      intro v present
      rw [present, Option.getD_some] at shown
      simpa [shownSecond, Time.isLeap] using shown

theorem time_notEnough (missing : ¬fs.HasTime) : fs.time = .error .notEnough := by
  unfold time
  split
  · next halfDay hourOfHalf minute =>
    dsimp only
    split
    · rfl
    · next decimals =>
      refine absurd ⟨?_, ?_, ?_, ?_⟩ missing
      · rw [halfDay, Option.isSome_some]
      · rw [hourOfHalf, Option.isSome_some]
      · rw [minute, Option.isSome_some]
      · intro fraction
        rw [fraction, Bool.true_and, Bool.not_eq_true, Option.isNone_eq_false_iff] at decimals
        exact decimals
  · rfl

theorem shows_of_time (inside : fs.InRange) (found : fs.time = .ok t) : fs.Shows t := by
  by_cases enough : fs.HasTime
  · obtain ⟨own, same, shows⟩ := time_ok inside enough
    rw [found] at same
    cases same
    exact shows
  · rw [time_notEnough enough] at found
    cases found

theorem adds_fill? {epochSecond : Int} (filled : fs.fill? epochSecond = some next) :
    ∃ given, Adds fs next given := by
  obtain ⟨first, -, filled⟩ := Option.bind_eq_some_iff.mp filled
  dsimp only [bind, pure] at filled
  split at filled
  · cases filled
  · obtain ⟨ts, -, filled⟩ := Option.bind_eq_some_iff.mp filled
    obtain ⟨base, stored, filled⟩ := Option.bind_eq_some_iff.mp filled
    -- the second is stored unless a leap second is there already
    obtain ⟨seconds, first⟩ : ∃ given, Adds fs base given := by
      split at stored
      · cases stored
        exact ⟨[], .refl fs⟩
      · exact ⟨_, adds_put? stored⟩
    obtain ⟨_, year, filled⟩ := Option.bind_eq_some_iff.mp filled
    obtain ⟨_, ordinal, filled⟩ := Option.bind_eq_some_iff.mp filled
    obtain ⟨_, hour, minute⟩ := Option.bind_eq_some_iff.mp filled
    have date := (adds_put? year).trans (adds_put? ordinal)
    have time := (adds_putHour? hour).trans (adds_put? minute)
    exact ⟨_, first.trans (date.trans time)⟩

theorem shows_of_timestamp? (inside : fs.InRange) (found : fs.timestamp? = some ts) :
    fs.Shows ts.time := by
  have ofFilled {epochSecond : Option Int} (found : (do
      let next ← fs.fill? (← epochSecond)
      let date ← next.date.toOption
      let time ← next.time.toOption
      return (⟨date, time⟩ : Timestamp)) = some ts) : fs.Shows ts.time := by
    obtain ⟨second, -, found⟩ := Option.bind_eq_some_iff.mp found
    obtain ⟨next, filled, found⟩ := Option.bind_eq_some_iff.mp found
    obtain ⟨date, -, found⟩ := Option.bind_eq_some_iff.mp found
    obtain ⟨time, whole, found⟩ := Option.bind_eq_some_iff.mp found
    cases found
    obtain ⟨given, adds⟩ := adds_fill? filled
    have shows : next.Shows time := by
      cases same : next.time with
      | error fault =>
        rw [same] at whole
        cases whole
      | ok own =>
        rw [same] at whole
        cases whole
        exact shows_of_time (adds.inRange inside) same
    exact shows.mono adds
  unfold timestamp? at found
  split at found
  · next date time _ whole =>
    cases (Option.filter_eq_some_iff.mp found).1
    exact shows_of_time inside whole
  · exact ofFilled found
  · exact ofFilled found
  · exact ofFilled found
  · cases found

theorem timestamp?_eq (plain : fs.get? .epochSecond = none) :
    fs.timestamp? = fs.time.toOption.bind fun t => fs.date.toOption.map (⟨·, t⟩) := by
  rw [timestamp?]
  cases datePart : fs.date with
  | ok date =>
    cases timePart : fs.time with
    | ok time => simp [Except.toOption, epochAgrees, plain]
    | error fault => cases fault <;> simp [Except.toOption, plain]
  | error fault =>
    cases timePart : fs.time with
    | ok time => cases fault <;> simp [Except.toOption, plain]
    | error other => cases fault <;> cases other <;> simp [Except.toOption, plain]

end Fields

def GivesHalf (items : List Item) (text : List Char) (half : Int) : Prop :=
  ∃ cs rest, Reaches items text .halfDay cs ∧ takeHalfDay cs = some (half, rest)

/-- A time of day has what a text gives of it. The 12-hour clock counts hour 0 as 12. -/
structure Carries (items : List Item) (text : List Char) (t : Time) : Prop where
  hour : ∀ v, Gives items text .hour v → t.hour = v
  hour12 : ∀ v, Gives items text .hour12 v → (t.hour : Int) % 12 = v % 12
  halfDay : ∀ half, GivesHalf items text half → (t.hour : Int) / 12 = half
  minute : ∀ v, Gives items text .minute v → t.minute = v
  second : ∀ v, Gives items text .second v → shownSecond t = v

/-- The items ask for a whole time of day, and the text has decimals of a second only where they ask
for the second. -/
def GivesTime (items : List Item) (text : List Char) : Prop :=
  ∃ fs, readItems? .empty items text = some fs ∧
    (.number .hour ∈ items ∨ .number .hour12 ∈ items ∧ .halfDay ∈ items) ∧ .number .minute ∈ items ∧
    ((fs.get? .nanosecond).isSome → .number .second ∈ items)

section Reading

variable {items : List Item} {text : List Char} {fs : Fields} {t : Time}

theorem get?_of_givesHalf {half : Int} (read : readItems? .empty items text = some fs)
    (gives : GivesHalf items text half) : fs.get? .halfDay = some half := by
  obtain ⟨cs, left, reached, found⟩ := gives
  obtain ⟨earlier, next, rest, given, taken, adds⟩ := take?_of_reaches read reached
  obtain ⟨own, same, stored⟩ := read_stored (earlier.put? .halfDay ·) taken
  cases found.symm.trans same
  exact adds.kept _ _ (get?_put? stored .halfDay)

theorem carries_of_shows (read : readItems? .empty items text = some fs) (shows : fs.Shows t) :
    Carries items text t := by
  constructor
  case hour =>
    intro v gives
    obtain ⟨earlier, next, given, stored, adds⟩ := put?_of_gives read gives
    obtain ⟨mid, half, hour⟩ := putHour?_eq_some stored
    have halfKept : next.get? .halfDay = some (v / 12) := by
      rw [get?_put? hour, if_neg (by decide), get?_put? half, if_pos rfl]
    have halves := shows.halfDay _ (adds.kept _ _ halfKept)
    have hours := shows.hourOfHalf _ (adds.kept _ _ (get?_put? hour .hourOfHalf))
    omega
  case hour12 =>
    intro v gives
    obtain ⟨earlier, next, given, stored, adds⟩ := put?_of_gives read gives
    rw [Number.put?] at stored
    split at stored
    · exact shows.hourOfHalf _ (adds.kept _ _ (get?_put? stored .hourOfHalf))
    · cases stored
  case halfDay =>
    intro half gives
    exact shows.halfDay half (get?_of_givesHalf read gives)
  case minute =>
    intro v gives
    obtain ⟨earlier, next, given, stored, adds⟩ := put?_of_gives read gives
    exact shows.minute v (adds.kept _ _ (get?_put? stored .minute))
  case second =>
    intro v gives
    obtain ⟨earlier, next, given, stored, adds⟩ := put?_of_gives read gives
    exact shows.second v (adds.kept _ _ (get?_put? stored .second))

end Reading

theorem Item.mem_fields (item : Item) :
    (.halfDay ∈ item.fields ↔ item = .number .hour ∨ item = .halfDay) ∧
      (.hourOfHalf ∈ item.fields ↔ item = .number .hour ∨ item = .number .hour12) ∧
      (.minute ∈ item.fields ↔ item = .number .minute) ∧
      (.second ∈ item.fields ↔ item = .number .second) ∧
      (.epochSecond ∈ item.fields ↔ item = .number .epochSecond) := by
  cases item with
  | number n => cases n <;> simp [fields, Number.fields]
  | _ => simp [fields]

theorem hasTime_iff {items : List Item} {text : List Char} {fs : Fields}
    (read : readItems? .empty items text = some fs) : fs.HasTime ↔ GivesTime items text := by
  have halfDay : (fs.get? .halfDay).isSome ↔ .number .hour ∈ items ∨ .halfDay ∈ items := by
    simp only [isSome_get?_iff read (by decide : Field.halfDay ≠ .nanosecond), Item.mem_fields,
      and_or_left, exists_or, exists_eq_right]
  have hourOfHalf :
      (fs.get? .hourOfHalf).isSome ↔ .number .hour ∈ items ∨ .number .hour12 ∈ items := by
    simp only [isSome_get?_iff read (by decide : Field.hourOfHalf ≠ .nanosecond), Item.mem_fields,
      and_or_left, exists_or, exists_eq_right]
  have minute : (fs.get? .minute).isSome ↔ .number .minute ∈ items := by
    simp only [isSome_get?_iff read (by decide : Field.minute ≠ .nanosecond), Item.mem_fields,
      exists_eq_right]
  have second : (fs.get? .second).isSome ↔ .number .second ∈ items := by
    simp only [isSome_get?_iff read (by decide : Field.second ≠ .nanosecond), Item.mem_fields,
      exists_eq_right]
  constructor
  · intro enough
    have half := halfDay.mp enough.halfDay
    have hour := hourOfHalf.mp enough.hourOfHalf
    have clock := or_and_left.mpr ⟨hour, half⟩
    exact ⟨fs, read, clock, minute.mp enough.minute,
      fun decimals => second.mp (enough.second decimals)⟩
  · rintro ⟨own, same, clock, minutes, seconds⟩
    cases read.symm.trans same
    obtain ⟨hour, half⟩ := or_and_left.mp clock
    exact ⟨halfDay.mpr half, hourOfHalf.mpr hour, minute.mpr minutes,
      fun decimals => second.mpr (seconds decimals)⟩

end RecordRows.Calendar

namespace RecordRows

open Calendar

/-- A read timestamp has the time of day that the text gives. But where the text gives only a part
of one, or an epoch second that contradicts it, midnight stands for it. -/
theorem Timestamp.read?_time {text format : List Char} {items : List Item}
    (known : items? format = some items) :
    (∀ ts, Timestamp.read? text format = some ts →
      ¬ ts.time.Stray ∧ (∀ n, .number n ∈ items → ∃ value, Gives items text n value) ∧
        (Carries items text ts.time ∨
          Date.read? text format = some ts.date ∧ ts.time = .midnight)) ∧
    (.number .epochSecond ∉ items →
      (GivesTime items text → ∃ t, ¬ t.Stray ∧ Carries items text t ∧
        Timestamp.read? text format = (Date.read? text format).map (⟨·, t⟩)) ∧
      (¬GivesTime items text →
        Timestamp.read? text format = (Date.read? text format).map .ofDate)) := by
  simp only [Timestamp.read?, Date.read?, readFields?, known, Option.bind_some]
  cases read : readItems? .empty items text with
  | none =>
    simp only [Option.bind_none]
    refine ⟨fun _ found => ?_, fun _ => ⟨?_, fun _ => rfl⟩⟩
    · cases found
    · rintro ⟨fs, found, -⟩
      rw [read] at found
      cases found
  | some fs =>
    simp only [Option.bind_some]
    have inside := inRange_readItems? read
    constructor
    · intro ts found
      have gives (n : Number) : .number n ∈ items → ∃ value, Gives items text n value :=
        exists_gives read
      rw [Option.orElse_eq_orElse, Option.orElse_eq_or, Option.or_eq_some_iff] at found
      rcases found with whole | ⟨-, midnight⟩
      · have shows := Fields.shows_of_timestamp? inside whole
        exact ⟨shows.kept, gives, .inl (carries_of_shows read shows)⟩
      · obtain ⟨date, own, rfl⟩ := Option.map_eq_some_iff.mp midnight
        exact ⟨(by decide : ¬ Time.midnight.Stray), gives, .inr ⟨own, rfl⟩⟩
    · intro plain
      have noEpoch : fs.get? .epochSecond = none := by
        rw [← Option.not_isSome_iff_eq_none,
          isSome_get?_iff read (by decide : Field.epochSecond ≠ .nanosecond)]
        simpa only [Item.mem_fields, exists_eq_right] using plain
      rw [Fields.timestamp?_eq noEpoch]
      constructor
      · intro gives
        obtain ⟨t, time, shows⟩ := Fields.time_ok inside ((hasTime_iff read).mpr gives)
        refine ⟨t, shows.kept, carries_of_shows read shows, ?_⟩
        rw [time]
        cases fs.date <;> rfl
      · intro gives
        rw [Fields.time_notEnough (gives ∘ (hasTime_iff read).mp)]
        rfl

theorem Timestamp.read?_time_twelve :
    let items := yearMonthDay ++ [.space, .number .hour12, .literal ':', .number .minute, .space,
      .halfDay]
    let text := "2020-03-01 12:30 am".toList
    let format := "%Y-%m-%d %I:%M %p".toList
    items? format = some items ∧ .number .epochSecond ∉ items ∧ GivesTime items text ∧
      Gives items text .hour12 12 ∧ ∃ t, ¬ t.Stray ∧ Carries items text t ∧
        Timestamp.read? text format = (Date.read? text format).map (⟨·, t⟩) := by
  intro items text format
  have known : items? format = some items := by decide +kernel
  have plain : .number .epochSecond ∉ items := by decide
  have gives : GivesTime items text := ⟨_, rfl, by decide, by decide, nofun⟩
  have reached : Reaches items text (.number .hour12) "12:30 am".toList :=
    ⟨yearMonthDay ++ [.space], _, _, rfl, rfl⟩
  have twelve : Gives items text .hour12 12 := ⟨_, _, reached, rfl⟩
  exact ⟨known, plain, gives, twelve, ((read?_time known).2 plain).1 gives⟩

/-- An hour without minutes is dropped. -/
theorem Timestamp.hour_dropped :
    ¬∀ (text format : List Char) (items : List Item), items? format = some items →
      .number .hour ∈ items ∨ .number .hour12 ∈ items ∨ .number .minute ∈ items →
      (∀ ts, Timestamp.read? text format = some ts → Carries items text ts.time) ∧
        (¬GivesTime items text → Timestamp.read? text format = none) := by
  intro kept
  have known : items? "%Y-%m-%d %H".toList = some (yearMonthDay ++ [.space, .number .hour]) := by
    decide +kernel
  have carries := (kept "2020-01-01 15".toList _ _ known (.inl (by decide))).1
  have read : Timestamp.read? "2020-01-01 15".toList "%Y-%m-%d %H".toList =
      some (.ofDate ⟨2020, 1, 1, by decide, by decide, by decide, by decide⟩) := by
    rw [Timestamp.read?, readFields?, known]
    rfl
  have reached :
      Reaches (yearMonthDay ++ [.space, .number .hour]) "2020-01-01 15".toList (.number .hour)
        "15".toList :=
    ⟨yearMonthDay ++ [.space], _, _, rfl, rfl⟩
  have same : ((0 : Nat) : Int) = 15 := (carries _ read).hour 15 ⟨_, _, reached, rfl⟩
  cases same

end RecordRows
