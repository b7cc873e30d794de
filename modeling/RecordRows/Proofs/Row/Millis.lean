import RecordRows.Proofs.Calendar.Days
import RecordRows.Proofs.Row.Attempts
import RecordRows.Proofs.Value.Narrowing
import RecordRows.Proofs.Value.ReadBack
/-! A count of milliseconds gives the same timestamp as a number and as a text. Where it gives none,
a text is left to the formats after it. -/

namespace RecordRows

open Calendar Text

namespace Calendar

theorem takeNumber_digits {width : Option Nat} {cs rest : List Char} {value : Int}
    (digits : ∀ c ∈ cs, c.isDigit) (taken : takeNumber width cs = some (value, rest)) :
    ∀ c ∈ rest, c.isDigit := by
  obtain ⟨n, -, taken⟩ := Option.bind_eq_some_iff.mp taken
  obtain ⟨-, parts⟩ := Option.ite_none_right_eq_some.mp taken
  cases parts
  exact fun c member => digits c (List.mem_of_mem_drop member)

theorem takeSigned_intChars {width : Nat} {n value : Int} {rest : List Char}
    (taken : takeSigned width (intChars n) = some (value, rest)) : ∀ c ∈ rest, c.isDigit := by
  have digits := natChars_digits n.natAbs
  rw [intChars] at taken
  split at taken
  · obtain ⟨⟨size, left⟩, unsigned, parts⟩ := Option.map_eq_some_iff.mp taken
    cases parts
    exact takeNumber_digits digits unsigned
  · obtain ⟨c, cs, parts⟩ := List.exists_cons_of_ne_nil (natChars_ne_nil n.natAbs)
    rw [parts] at digits taken
    rw [takeSigned_of_digit (digits c List.mem_cons_self)] at taken
    exact takeNumber_digits digits taken

theorem readItems?_intChars (n : Int) (items : List Item) :
    readItems? .empty (yearMonthDay ++ items) (intChars n) = none := by
  -- No date begins an integer, for want of the dash after the year.
  rw [yearMonthDay, List.cons_append, readItems?, Option.bind_eq_none_iff]
  rintro ⟨fs, rest⟩ year
  simp only [Item.take?, trimStart_visible (visible_intChars n), Number.take] at year
  obtain ⟨⟨value, left⟩, taken, stored⟩ := Option.bind_eq_some_iff.mp year
  obtain ⟨next, -, parts⟩ := Option.bind_eq_some_iff.mp stored
  cases parts
  cases left with
  | nil => rfl
  | cons c left =>
    have digit := takeSigned_intChars taken c List.mem_cons_self
    have other : '-' ≠ c := by
      rintro rfl
      cases digit
    simp only [List.cons_append, readItems?, Item.take?, if_neg other, Option.bind_none]

theorem items?_timestampT : items? "%Y-%m-%dT%H:%M:%S%.f".toList =
    some (yearMonthDay ++ .literal 'T' :: (hourMinuteSecond ++ [.fraction])) := by decide +kernel

end Calendar

namespace TimestampParser

theorem attempts_intChars (n : Int) :
    ∀ attempt ∈ attempts none [], attempt.read? (intChars n) = none := by
  have unread {format : List Char} {items : List Item}
      (known : items? format = some (yearMonthDay ++ items)) :
      Timestamp.read? (intChars n) format = none := by
    rw [Timestamp.read?, readFields?, known, Option.bind_some, readItems?_intChars,
      Option.bind_none]
  simp only [attempts, defaultTimestampFormats, Option.toList_none, List.map_nil, List.nil_append,
    List.filterMap_nil, List.append_nil, List.map_cons, List.forall_mem_cons, Attempt.read?]
  exact ⟨unread items?_timestamp, unread items?_timestampT, List.forall_mem_nil _⟩

theorem parse_millis {first : String} (millis : Attempt.configured? first = some .millis)
    (configured : List String) (n : Int64) :
    (ofFormats (first :: configured)).parse (.string (intText n.toInt)) none =
      outcome (intText n.toInt) ((Timestamp.ofEpochMilli? n.toInt).or
        ((configured.filterMap Attempt.configured?).findSome?
          (Attempt.read? (intChars n.toInt)))) := by
  have unread : (attempts none []).findSome? (Attempt.read? (intChars n.toInt)) = none :=
    List.findSome?_eq_none_iff.mpr (attempts_intChars n.toInt)
  have counted : Attempt.read? (intChars n.toInt) .millis = Timestamp.ofEpochMilli? n.toInt := by
    rw [Attempt.read?, readLong?_intChars, Option.bind_some]
  have all := attempts_append none [] (first :: configured)
  rw [List.nil_append] at all
  rw [parse_text, trim_intText, all, List.findSome?_append, unread, Option.none_or,
    List.filterMap_cons_some millis, List.findSome?_cons, counted]
  cases Timestamp.ofEpochMilli? n.toInt <;> rfl

end TimestampParser

namespace Value

theorem toTimestamp_number {v : Value} (number : v.IsNumber) (format : Option String) :
    v.toTimestamp format = v.numberToTimestamp := by
  cases v with
  | int | long | float | double | decimal => rfl
  | _ => exact number.elim

theorem toDate_number {v : Value} (number : v.IsNumber) (format : Option String) :
    v.toDate format = v.numberToTimestamp.map (·.map (·.date)) := by
  cases v with
  | int | long | float | double | decimal => rfl
  | _ => exact number.elim

theorem isNumber_of_whole {v : Value} {n : ℤ} (whole : v.whole? = some n) : v.IsNumber := by
  cases v with
  | int | long | float | double | decimal => trivial
  | _ => cases whole

theorem numberToTimestamp_eq {v : Value} {n : Int64} (whole : v.whole? = some n.toInt) :
    v.numberToTimestamp = ofEpochMilli n := by
  obtain ⟨text, narrowed⟩ := toLong_number (isNumber_of_whole whole)
  rw [whole, Option.bind_some, int64?_toInt] at narrowed
  rw [numberToTimestamp, narrowed]
  rfl

open TimestampParser in
/-- A number whose integer part is a long gives the timestamp that this count of milliseconds gives,
and its date, by whatever format, and so does the text of this long by a parser that counts
milliseconds first. If there is no date for the count, the number is out of range, and only the
formats configured after the count can still read the text. -/
theorem epochMilli_routes {v : Value} {n : Int64} (whole : v.whole? = some n.toInt) :
    ((∃ d : Date, d.Counted (n.toInt / 86400000)) → ∃ ts : Timestamp, ts.AtMilli n.toInt ∧
      (∀ format, v.toTimestamp format = .ok (some ts) ∧ v.toDate format = .ok (some ts.date)) ∧
      ∀ first configured, Attempt.configured? first = some .millis →
        (ofFormats (first :: configured)).parse (.string (intText n.toInt)) none = .ok (some ts)) ∧
    ((∀ d : Date, ¬ d.Counted (n.toInt / 86400000)) →
      (∀ format, v.toTimestamp format = .error (.outOfRange (intText n.toInt) .timestamp) ∧
        v.toDate format = .error (.outOfRange (intText n.toInt) .timestamp)) ∧
      ∀ first configured, Attempt.configured? first = some .millis →
        let parsed := (ofFormats (first :: configured)).parse (.string (intText n.toInt)) none
        let later := configured.filterMap Attempt.configured?
        (∀ ts, parsed = .ok (some ts) ↔ FirstRead later (intText n.toInt).toList ts) ∧
          ∀ e, parsed = .error e ↔ e = .timestamp (intText n.toInt) ∧
            ∀ attempt ∈ later, attempt.read? (intText n.toInt).toList = none) := by
  have number := isNumber_of_whole whole
  have counted := numberToTimestamp_eq whole
  rw [ofEpochMilli] at counted
  constructor
  · intro inside
    have some : Timestamp.ofEpochMilli? n.toInt ≠ none := by
      intro none
      obtain ⟨d, day⟩ := inside
      exact Timestamp.ofEpochMilli?_eq_none_iff.mp none d day
    obtain ⟨ts, found⟩ := Option.ne_none_iff_exists'.mp some
    rw [found] at counted
    have counts := Timestamp.ofEpochMilli?_eq_some_iff.mp found
    refine ⟨ts, counts, fun format => ?_, fun first configured millis => ?_⟩
    · rw [toTimestamp_number number, toDate_number number, counted]
      exact ⟨rfl, rfl⟩
    · rw [parse_millis millis, found, Option.some_or, outcome]
  · intro outside
    have none := Timestamp.ofEpochMilli?_eq_none_iff.mpr outside
    rw [none] at counted
    refine ⟨fun format => ?_, fun first configured millis => ?_⟩
    · rw [toTimestamp_number number, toDate_number number, counted]
      exact ⟨rfl, rfl⟩
    · intro parsed later
      have read : parsed =
          outcome (intText n.toInt) (later.findSome? (Attempt.read? (intChars n.toInt))) := by
        have all := parse_millis millis configured n
        rwa [none, Option.none_or] at all
      have shown : (intText n.toInt).toList = intChars n.toInt := String.toList_ofList
      rw [read, shown]
      refine ⟨fun ts => ?_, fun e => ?_⟩
      · rw [outcome_eq_ok_iff, firstRead_iff]
      · rw [outcome_eq_error_iff, List.findSome?_eq_none_iff]

open TimestampParser in
theorem epochMilli_routes_edges :
    let eve : Timestamp := ⟨⟨1969, 12, 31, by decide, by decide, by decide, by decide⟩,
      ⟨23, 59, 59, 999000000, by decide, by decide, by decide, by decide⟩⟩
    let before := double ⟨0xbff8000000000000⟩
    let beyond := long 9000010100000000
    (before.whole? = some (-1) ∧ (∃ d : Date, d.Counted (-1)) ∧
      before.toTimestamp none = .ok (some eve) ∧
      (ofFormats [" Millis", "%s"]).parse (.string "-1") none = .ok (some eve)) ∧
    beyond.whole? = some 9000010100000000 ∧
      (∀ d : Date, ¬ d.Counted (9000010100000000 / 86400000)) ∧
      beyond.toDate (some "%Y") = .error (.outOfRange "9000010100000000" .timestamp) ∧
      (ofFormats ["millis"]).parse (.string "9000010100000000") none =
        .error (.timestamp "9000010100000000") := by
  intro eve before beyond
  have last : before.whole? = some (-1 : Int64).toInt := by decide +kernel
  have past : beyond.whole? = some (9000010100000000 : Int64).toInt := by decide +kernel
  have day : eve.date.Counted (-1) := Date.counted_iff.mpr (by decide)
  have none (d : Date) : ¬ d.Counted (9000010100000000 / 86400000) := by
    rw [Date.counted_iff]
    intro number
    have range := Date.exists_dayNumber_iff.mp ⟨d, number⟩
    omega
  have own : eve.AtMilli (-1) := ⟨-1, 86399999, day, by decide, by decide, by decide, by decide⟩
  obtain ⟨ts, count, given, text⟩ := (epochMilli_routes last).1 ⟨_, day⟩
  obtain rfl := count.unique own
  obtain ⟨refused, unread⟩ := (epochMilli_routes past).2 none
  exact ⟨⟨last, ⟨_, day⟩, (given Option.none).1, text _ _ (by decide)⟩, past, none, (refused _).2,
    ((unread "millis" [] (by decide)).2 _).mpr ⟨rfl, List.forall_mem_nil _⟩⟩

open TimestampParser in
/-- A text that counts too many milliseconds can still be read by a format after the count. -/
theorem millis_read_later :
    ¬ ∀ (v : Value) (n : Int64) (configured : List String), v.whole? = some n.toInt →
      (∃ e, v.toTimestamp none = .error e) →
      ∃ e, (ofFormats ("millis" :: configured)).parse (.string (intText n.toInt)) none =
        .error e := by
  intro fails
  have whole : (long 9000010100000000).whole? = some (9000010100000000 : Int64).toInt := by
    decide +kernel
  have refused : (long 9000010100000000).toTimestamp none =
      .error (.outOfRange "9000010100000000" .timestamp) := by decide +kernel
  obtain ⟨e, failed⟩ := fails _ _ ["%Y%m%d%H%M%S%f"] whole ⟨_, refused⟩
  have read : (attempts none ["millis", "%Y%m%d%H%M%S%f"]).findSome?
      (Attempt.read? (trim (intText (9000010100000000 : Int64).toInt).toList)) =
        some (.ofDate ⟨9000, 1, 1, by decide, by decide, by decide, by decide⟩) := by decide +kernel
  rw [parse_text, read] at failed
  cases failed

end Value

end RecordRows
