import Mathlib.Data.Int.Init
import Mathlib.Data.Int.Order.Basic
import Mathlib.Order.Monotone.Basic
import RecordRows.Calendar.Timestamp
/-! Days are counted along the calendar, one by one from the start of 1970, and the timestamp of a
count of milliseconds is the day and the time of day that the count gives. -/

namespace RecordRows

open Calendar

namespace Calendar

theorem isLeap_iff (year : Int) :
    isLeap year ↔ year % 4 = 0 ∧ (year % 100 ≠ 0 ∨ year % 400 = 0) := by
  simp [isLeap]

def yearLength (year : Int) : Nat := if isLeap year then 366 else 365

theorem daysBeforeYear_succ (year : Int) :
    daysBeforeYear (year + 1) = daysBeforeYear year + yearLength year := by
  have leap := isLeap_iff year
  rw [daysBeforeYear, daysBeforeYear, yearLength]
  split
  · next long =>
    have parts := leap.mp long
    omega
  · next short =>
    have parts := mt leap.mpr short
    omega

theorem daysBeforeYear_lt_iff {year other : Int} :
    daysBeforeYear year < daysBeforeYear other ↔ year < other := by
  have later : StrictMono daysBeforeYear := by
    apply strictMono_int_of_lt_succ
    intro year
    rw [daysBeforeYear_succ, yearLength]
    split <;> omega
  exact later.lt_iff_lt

theorem daysBeforeYear_le_iff {year other : Int} :
    daysBeforeYear year ≤ daysBeforeYear other ↔ year ≤ other := by
  rw [← Int.not_lt, daysBeforeYear_lt_iff, Int.not_lt]

theorem daysBeforeYear_mean (year : Int) :
    146097 * year - 396 ≤ 400 * daysBeforeYear year ∧
    400 * daysBeforeYear year ≤ 146097 * year + 699 := by
  rw [daysBeforeYear]
  constructor <;> omega

theorem yearOfDay_spec (day : Int) :
    daysBeforeYear (yearOfDay day) ≤ day + epoch ∧
    day + epoch < daysBeforeYear (yearOfDay day + 1) := by
  simp only [yearOfDay]
  generalize day + epoch = elapsed
  have guess : 146097 * (elapsed * 400 / 146097) ≤ elapsed * 400 ∧
      elapsed * 400 < 146097 * (elapsed * 400 / 146097) + 146097 := by omega
  generalize elapsed * 400 / 146097 = year at guess
  -- The guess is off by one year at most, since even the neighbours' neighbours are too far away.
  split
  · next early =>
    have before := daysBeforeYear_mean (year - 1)
    rw [Int.sub_add_cancel]
    omega
  · split
    · next late =>
      have after := daysBeforeYear_mean (year + 1 + 1)
      omega
    · omega

theorem yearOfDay_eq {year day : Int} (low : daysBeforeYear year ≤ day + epoch)
    (high : day + epoch < daysBeforeYear (year + 1)) : yearOfDay day = year := by
  obtain ⟨first, last⟩ := yearOfDay_spec day
  have notBefore := daysBeforeYear_lt_iff.mp (low.trans_lt last)
  have notAfter := daysBeforeYear_lt_iff.mp (first.trans_lt high)
  omega

theorem daysBeforeMonth_mono (year : Int) : Monotone (daysBeforeMonth year) :=
  monotone_nat_of_le_succ fun _ => Nat.le_add_right _ _

theorem daysBeforeMonth_thirteen (year : Int) : daysBeforeMonth year 13 = yearLength year := by
  simp only [daysBeforeMonth, monthLength, yearLength]
  cases isLeap year <;> rfl

theorem monthLength_pos (year : Int) {month : Nat} (first : 1 ≤ month) (last : month ≤ 12) :
    1 ≤ monthLength year month := by
  unfold monthLength
  repeat' split
  all_goals omega

theorem exists_month {year : Int} {ordinal months : Nat} (positive : 1 ≤ ordinal)
    (bound : ordinal ≤ daysBeforeMonth year months) :
    ∃ month < months, daysBeforeMonth year month < ordinal ∧
      ordinal ≤ daysBeforeMonth year month + monthLength year month := by
  induction months with
  | zero =>
    rw [daysBeforeMonth] at bound
    omega
  | succ months ih =>
    by_cases earlier : ordinal ≤ daysBeforeMonth year months
    · obtain ⟨month, less, inside⟩ := ih earlier
      exact ⟨month, by omega, inside⟩
    · exact ⟨months, by omega, by omega, bound⟩

end Calendar

namespace Date

theorem month_range (d : Date) : 1 ≤ d.month ∧ d.month ≤ 12 := by
  have positive := Nat.le_trans d.day_pos d.day_le
  unfold monthLength at positive
  repeat' split at positive
  all_goals omega

theorem ordinal_range (d : Date) :
    daysBeforeMonth d.year d.month < d.ordinal ∧
    d.ordinal ≤ daysBeforeMonth d.year (d.month + 1) := by
  have first := d.day_pos
  have last := d.day_le
  rw [ordinal, daysBeforeMonth]
  omega

theorem ordinal_le (d : Date) : 1 ≤ d.ordinal ∧ d.ordinal ≤ yearLength d.year := by
  have range := d.ordinal_range
  have months : d.month + 1 ≤ 13 := Nat.succ_le_succ d.month_range.2
  have bound := daysBeforeMonth_mono d.year months
  rw [daysBeforeMonth_thirteen] at bound
  omega

theorem dayNumber_range (d : Date) : daysBeforeYear d.year ≤ d.dayNumber + epoch ∧
    d.dayNumber + epoch < daysBeforeYear (d.year + 1) := by
  have range := d.ordinal_le
  rw [daysBeforeYear_succ, dayNumber]
  omega

theorem eq_of_parts {d e : Date} (year : d.year = e.year) (month : d.month = e.month)
    (day : d.day = e.day) : d = e := by
  cases d
  cases e
  simp_all only

theorem eq_of_ordinal {d e : Date} (year : d.year = e.year) (ordinal : d.ordinal = e.ordinal) :
    d = e := by
  have first := d.ordinal_range
  have second := e.ordinal_range
  rw [year] at first
  have month : d.month = e.month := by
    rcases Nat.lt_trichotomy d.month e.month with less | same | greater
    · have next : d.month + 1 ≤ e.month := less
      have order := daysBeforeMonth_mono e.year next
      omega
    · exact same
    · have next : e.month + 1 ≤ d.month := greater
      have order := daysBeforeMonth_mono e.year next
      omega
  apply eq_of_parts year month
  rw [Date.ordinal, Date.ordinal, year, month] at ordinal
  omega

theorem eq_of_dayNumber {d e : Date} (same : d.dayNumber = e.dayNumber) : d = e := by
  have year : d.year = e.year := by
    obtain ⟨low, high⟩ := d.dayNumber_range
    obtain ⟨first, last⟩ := e.dayNumber_range
    rw [← yearOfDay_eq low high, ← yearOfDay_eq first last, same]
  apply eq_of_ordinal year
  rw [dayNumber, dayNumber, year] at same
  omega

theorem of?_eq_some_iff {year : Int} {month day : Nat} {d : Date} :
    of? year month day = some d ↔ d.year = year ∧ d.month = month ∧ d.day = day := by
  rw [of?, Option.dite_none_right_eq_some]
  constructor
  · rintro ⟨valid, made⟩
    cases made
    exact ⟨rfl, rfl, rfl⟩
  · rintro ⟨rfl, rfl, rfl⟩
    exact ⟨⟨⟨d.year_ge, d.year_le⟩, d.day_pos, d.day_le⟩, rfl⟩

theorem ofOrdinal?_eq_some_iff {year : Int} {ordinal : Nat} {d : Date} :
    ofOrdinal? year ordinal = some d ↔ d.year = year ∧ d.ordinal = ordinal := by
  have sound {d : Date} (found : ofOrdinal? year ordinal = some d) :
      d.year = year ∧ d.ordinal = ordinal := by
    obtain ⟨month, -, made⟩ := List.exists_of_findSome?_eq_some found
    obtain ⟨rfl, rfl, day⟩ := of?_eq_some_iff.mp made
    have positive := d.day_pos
    rw [Date.ordinal]
    omega
  constructor
  · exact sound
  · rintro ⟨rfl, rfl⟩
    cases found : ofOrdinal? d.year d.ordinal with
    | some e =>
      obtain ⟨year, ordinal⟩ := sound found
      rw [eq_of_ordinal year ordinal]
    | none =>
      have none := List.findSome?_eq_none_iff.mp found d.month
        (List.mem_range.mpr (Nat.lt_succ_of_le d.month_range.2))
      have day : d.ordinal - daysBeforeMonth d.year d.month = d.day := Nat.add_sub_cancel_left ..
      rw [day, of?_eq_some_iff.mpr ⟨rfl, rfl, rfl⟩] at none
      cases none

theorem ofDayNumber?_eq_some_iff {n : Int} {d : Date} :
    ofDayNumber? n = some d ↔ d.dayNumber = n := by
  obtain ⟨low, high⟩ := yearOfDay_spec n
  rw [ofDayNumber?, ofOrdinal?_eq_some_iff]
  constructor
  · rintro ⟨year, ordinal⟩
    rw [dayNumber, year, ordinal]
    omega
  · rintro rfl
    obtain ⟨first, last⟩ := d.dayNumber_range
    rw [yearOfDay_eq first last]
    refine ⟨rfl, ?_⟩
    rw [dayNumber]
    omega

theorem exists_ordinal {year : Int} {ordinal : Nat} (low : -262143 ≤ year) (high : year ≤ 262142)
    (positive : 1 ≤ ordinal) (bound : ordinal ≤ yearLength year) :
    ∃ d : Date, d.year = year ∧ d.ordinal = ordinal := by
  rw [← daysBeforeMonth_thirteen] at bound
  obtain ⟨month, -, after, inside⟩ := exists_month positive bound
  refine ⟨⟨year, month, ordinal - daysBeforeMonth year month, low, high, by omega, by omega⟩,
    rfl, ?_⟩
  exact Nat.add_sub_of_le after.le

theorem exists_dayNumber_iff {n : Int} :
    (∃ d : Date, d.dayNumber = n) ↔ -96465292 ≤ n ∧ n ≤ 95026236 := by
  have start : daysBeforeYear (-262143) = epoch - 96465292 := by decide
  have stop : daysBeforeYear 262143 = epoch + 95026237 := by decide
  constructor
  · rintro ⟨d, rfl⟩
    obtain ⟨first, last⟩ := d.dayNumber_range
    have low := daysBeforeYear_le_iff.mpr d.year_ge
    have high := daysBeforeYear_le_iff.mpr (Int.add_le_add_right d.year_le 1)
    have same : (262142 : Int) + 1 = 262143 := rfl
    rw [same] at high
    omega
  · rintro ⟨least, greatest⟩
    obtain ⟨first, last⟩ := yearOfDay_spec n
    have above : -262143 < yearOfDay n + 1 := daysBeforeYear_lt_iff.mp (by omega)
    have below : yearOfDay n < 262143 := daysBeforeYear_lt_iff.mp (by omega)
    rw [daysBeforeYear_succ] at last
    obtain ⟨d, year, ordinal⟩ : ∃ d : Date, d.year = yearOfDay n ∧
        d.ordinal = (n + epoch - daysBeforeYear (yearOfDay n) + 1).toNat :=
      exists_ordinal (by omega) (by omega) (by omega) (by omega)
    refine ⟨d, ?_⟩
    rw [dayNumber, year, ordinal]
    omega

/-- The day after a day: in its month, on the first of the month after it, or on the first of the
next year. -/
inductive Next (d e : Date) : Prop where
  | day (year : e.year = d.year) (month : e.month = d.month) (day : e.day = d.day + 1)
  | month (last : d.day = monthLength d.year d.month) (year : e.year = d.year)
      (month : e.month = d.month + 1) (first : e.day = 1)
  | year (december : d.month = 12) (last : d.day = monthLength d.year d.month)
      (year : e.year = d.year + 1) (january : e.month = 1) (first : e.day = 1)

theorem ordinal_last {d : Date} (december : d.month = 12)
    (last : d.day = monthLength d.year d.month) : d.ordinal = yearLength d.year := by
  rw [ordinal, last, december]
  exact daysBeforeMonth_thirteen d.year

theorem Next.dayNumber_eq {d e : Date} (next : d.Next e) : e.dayNumber = d.dayNumber + 1 := by
  rw [dayNumber, dayNumber]
  cases next with
  | day year month day =>
    rw [ordinal, ordinal, year, month, day]
    omega
  | month last year month first =>
    rw [ordinal, ordinal, last, year, month, first, daysBeforeMonth]
    omega
  | year december last year january first =>
    have none : daysBeforeMonth (d.year + 1) 1 = 0 := rfl
    rw [ordinal_last december last, ordinal, year, january, first, none, daysBeforeYear_succ]
    omega

theorem exists_next {d : Date} (earlier : d.dayNumber < 95026236) : ∃ e : Date, d.Next e := by
  have months := d.month_range
  rcases d.day_le.lt_or_eq with inside | last
  · exact ⟨⟨d.year, d.month, d.day + 1, d.year_ge, d.year_le, by omega, inside⟩, .day rfl rfl rfl⟩
  · rcases months.2.lt_or_eq with early | december
    · have long : 1 ≤ monthLength d.year (d.month + 1) := monthLength_pos _ (by omega) (by omega)
      exact ⟨⟨d.year, d.month + 1, 1, d.year_ge, d.year_le, by decide, long⟩,
        .month last rfl rfl rfl⟩
    · have low := d.year_ge
      have high : d.year + 1 ≤ 262142 := by
        have stop : daysBeforeYear 262143 = epoch + 95026237 := by decide
        rw [dayNumber, ordinal_last december last] at earlier
        have order : daysBeforeYear (d.year + 1) < daysBeforeYear 262143 := by
          rw [daysBeforeYear_succ]
          omega
        have years := daysBeforeYear_lt_iff.mp order
        omega
      have long : 1 ≤ monthLength (d.year + 1) 1 := monthLength_pos _ (by decide) (by decide)
      exact ⟨⟨d.year + 1, 1, 1, by omega, high, by decide, long⟩, .year december last rfl rfl rfl⟩

theorem next_iff {d e : Date} : d.Next e ↔ e.dayNumber = d.dayNumber + 1 := by
  refine ⟨Next.dayNumber_eq, fun number => ?_⟩
  have range := exists_dayNumber_iff.mp ⟨e, rfl⟩
  obtain ⟨f, next⟩ := exists_next (d := d) (by omega)
  have same : f.dayNumber = e.dayNumber := next.dayNumber_eq.trans number.symm
  rw [← eq_of_dayNumber same]
  exact next

/-- Counts days from the start of 1970, forward and back. -/
inductive Counted : Date → Int → Prop where
  | epoch {d : Date} (year : d.year = 1970) (month : d.month = 1) (day : d.day = 1) : Counted d 0
  | next {d e : Date} {n : Int} (counted : Counted d n) (next : d.Next e) : Counted e (n + 1)
  | previous {d e : Date} {n : Int} (counted : Counted e n) (next : d.Next e) : Counted d (n - 1)

theorem counted_iff {d : Date} {n : Int} : d.Counted n ↔ d.dayNumber = n := by
  constructor
  · intro counted
    induction counted with
    | epoch year month day =>
      rw [dayNumber, ordinal, year, month, day]
      decide
    | next _ next ih => rw [next.dayNumber_eq, ih]
    | previous _ next ih =>
      rw [← ih, next.dayNumber_eq]
      omega
  · induction n using Int.induction_on generalizing d with
    | zero =>
      intro number
      let start : Date := ⟨1970, 1, 1, by decide, by decide, by decide, by decide⟩
      have origin : start.dayNumber = 0 := by decide
      rw [eq_of_dayNumber (number.trans origin.symm)]
      exact .epoch rfl rfl rfl
    | succ n ih =>
      intro number
      have range := exists_dayNumber_iff.mp ⟨d, number⟩
      obtain ⟨before, counted⟩ : ∃ e : Date, e.dayNumber = n := exists_dayNumber_iff.mpr (by omega)
      have next : before.Next d := next_iff.mpr (by omega)
      exact (ih counted).next next
    | pred n ih =>
      intro number
      have range := exists_dayNumber_iff.mp ⟨d, number⟩
      obtain ⟨after, counted⟩ : ∃ e : Date, e.dayNumber = -n := exists_dayNumber_iff.mpr (by omega)
      have next : d.Next after := next_iff.mpr (by omega)
      exact (ih counted).previous next

end Date

def Time.AtMilli (t : Time) (milli : Nat) : Prop :=
  ¬ t.isLeap ∧ t.secondOfDay * 1000000000 + t.nano = milli * 1000000

def Timestamp.AtMilli (ts : Timestamp) (n : Int) : Prop :=
  ∃ (days : Int) (milli : Nat), ts.date.Counted days ∧ milli < 86400000 ∧
    86400000 * days + milli = n ∧ ts.time.AtMilli milli

/-- A leap second that is not the last second of a minute. -/
def Time.Stray (t : Time) : Prop := t.isLeap ∧ t.second ≠ 59

instance (t : Time) : Decidable t.Stray := inferInstanceAs (Decidable (_ ∧ _))

theorem Time.not_stray_iff {t : Time} : ¬ t.Stray ↔ t.nano < 1000000000 ∨ t.second = 59 := by
  rw [Stray, isLeap, decide_eq_true_iff]
  omega

theorem Time.of?_eq_some_iff {hour minute second nano : Nat} {t : Time} :
    of? hour minute second nano = some t ↔
      (t.hour = hour ∧ t.minute = minute ∧ t.second = second ∧ t.nano = nano) ∧ ¬ t.Stray := by
  rw [of?, Option.dite_none_right_eq_some, not_stray_iff]
  constructor
  · rintro ⟨valid, made⟩
    cases made
    exact ⟨⟨rfl, rfl, rfl, rfl⟩, valid.2.2⟩
  · rintro ⟨⟨rfl, rfl, rfl, rfl⟩, kept⟩
    exact ⟨⟨⟨t.hour_lt, t.minute_lt, t.second_lt⟩, t.nano_lt, kept⟩, rfl⟩

theorem Time.atMilli_iff {t : Time} {milli : Nat} (inside : milli < 86400000) :
    t.AtMilli milli ↔ of? (milli / 1000 / 3600) (milli / 1000 / 60 % 60) (milli / 1000 % 60)
      (milli % 1000 * 1000000) = some t := by
  have hours := t.hour_lt
  have minutes := t.minute_lt
  have seconds := t.second_lt
  rw [of?_eq_some_iff, not_stray_iff, AtMilli, isLeap, decide_eq_true_iff, secondOfDay]
  constructor
  · rintro ⟨short, total⟩
    omega
  · rintro ⟨⟨hour, minute, second, nano⟩, -⟩
    omega

theorem Time.exists_atMilli {milli : Nat} (inside : milli < 86400000) :
    ∃ t : Time, t.AtMilli milli := by
  have short : milli % 1000 * 1000000 < 1000000000 := by omega
  let t : Time := ⟨milli / 1000 / 3600, milli / 1000 / 60 % 60, milli / 1000 % 60,
    milli % 1000 * 1000000, by omega, by omega, by omega, by omega⟩
  have made : ¬ t.Stray := not_stray_iff.mpr (.inl short)
  exact ⟨t, (atMilli_iff inside).mpr (of?_eq_some_iff.mpr ⟨⟨rfl, rfl, rfl, rfl⟩, made⟩)⟩

namespace Timestamp

theorem ofEpochMilli?_eq {n days : Int} {milli : Nat} (inside : milli < 86400000)
    (count : 86400000 * days + milli = n) :
    ofEpochMilli? n = (Date.ofDayNumber? days).bind fun date =>
      (Time.of? (milli / 1000 / 3600) (milli / 1000 / 60 % 60) (milli / 1000 % 60)
        (milli % 1000 * 1000000)).bind fun time => some ⟨date, time⟩ := by
  have whole : n * 1000000 / 86400000000000 = days := by omega
  have rest : (n * 1000000 % 86400000000000).toNat = milli * 1000000 := by omega
  have second : milli * 1000000 / 1000000000 = milli / 1000 := by omega
  have nano : milli * 1000000 % 1000000000 = milli % 1000 * 1000000 := by omega
  simp only [ofEpochMilli?, ofEpochNano?, whole, rest, second, nano]
  rfl

theorem ofEpochMilli?_eq_some_iff {n : Int} {ts : Timestamp} :
    ofEpochMilli? n = some ts ↔ ts.AtMilli n := by
  constructor
  · intro found
    have inside : (n % 86400000).toNat < 86400000 := by omega
    have count : 86400000 * (n / 86400000) + (n % 86400000).toNat = n := by omega
    rw [ofEpochMilli?_eq inside count] at found
    obtain ⟨date, made, found⟩ := Option.bind_eq_some_iff.mp found
    obtain ⟨time, timed, ⟨⟩⟩ := Option.bind_eq_some_iff.mp found
    exact ⟨_, _, Date.counted_iff.mpr (Date.ofDayNumber?_eq_some_iff.mp made), inside, count,
      (Time.atMilli_iff inside).mpr timed⟩
  · rintro ⟨days, milli, counted, inside, count, timed⟩
    rw [ofEpochMilli?_eq inside count,
      Date.ofDayNumber?_eq_some_iff.mpr (Date.counted_iff.mp counted),
      (Time.atMilli_iff inside).mp timed]
    rfl

theorem AtMilli.unique {ts other : Timestamp} {n : Int} (first : ts.AtMilli n)
    (second : other.AtMilli n) : ts = other := by
  have found := ofEpochMilli?_eq_some_iff.mpr first
  rw [ofEpochMilli?_eq_some_iff.mpr second] at found
  exact (Option.some.inj found).symm

theorem ofEpochMilli?_eq_none_iff {n : Int} :
    ofEpochMilli? n = none ↔ ∀ d : Date, ¬ d.Counted (n / 86400000) := by
  -- The time of day always exists, so that only the day can be missing.
  have inside : (n % 86400000).toNat < 86400000 := by omega
  have count : 86400000 * (n / 86400000) + (n % 86400000).toNat = n := by omega
  rw [Option.eq_none_iff_forall_ne_some]
  constructor
  · intro none d counted
    obtain ⟨time, timed⟩ := Time.exists_atMilli inside
    exact none ⟨d, time⟩ (ofEpochMilli?_eq_some_iff.mpr ⟨_, _, counted, inside, count, timed⟩)
  · intro none ts found
    obtain ⟨days, milli, counted, small, total, -⟩ := ofEpochMilli?_eq_some_iff.mp found
    have same : n / 86400000 = days := by omega
    exact none ts.date (same ▸ counted)

end Timestamp

end RecordRows
