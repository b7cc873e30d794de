import Mathlib.Data.List.TakeWhile
import RecordRows.Calendar.Printer
import RecordRows.Calendar.Reader
import RecordRows.Proofs.Calendar.Days
import RecordRows.Proofs.Text.Blank
import RecordRows.Proofs.Text.Runs
import RecordRows.Value.Coerce
/-! The texts of dates and timestamps are read back by the formats that hold where none
is declared. -/

namespace RecordRows.Calendar

open Text

theorem takeNumber_numeral {width : Option Nat} {n : Nat} {digits rest : List Char}
    (numeral : Numeral n digits) (fits : ∀ w ∈ width, digits.length ≤ w)
    (stops : rest.head?.all (!·.isDigit)) (small : n ≤ 9223372036854775807) :
    takeNumber width (digits ++ rest) = some ((n : Int), rest) := by
  have outside : ∀ c ∈ rest.head?, c.isDigit = false := by
    intro c first
    simpa [Option.mem_def.mp first] using stops
  have run : (digits ++ rest).takeWhile Char.isDigit = digits := takeWhile_run numeral.2.1 outside
  have read : readNat? digits = some n := readNat?_eq_some_iff.mpr numeral
  cases width with
  | none => simp only [takeNumber, run, read, Option.bind_some, if_pos small, List.drop_left]
  | some w =>
    have whole : digits.take w = digits := List.take_of_length_le (fits w rfl)
    simp only [takeNumber, run, whole, read, Option.bind_some, if_pos small, List.drop_left]

theorem takeSigned_of_digit {width : Nat} {c : Char} (digit : c.isDigit) (cs : List Char) :
    takeSigned width (c :: cs) = takeNumber (some width) (c :: cs) := by
  unfold takeSigned
  split
  · next same => cases same; cases digit
  · next same => cases same; cases digit
  · rfl

theorem takeSigned_yearText {year : Int} (bound : year.natAbs ≤ 9223372036854775807)
    {rest : List Char} (stops : rest.head?.all (!·.isDigit)) :
    takeSigned 4 (yearText year ++ rest) = some (year, rest) := by
  rw [yearText]
  split
  · next plain =>
    have numeral := numeral_padNat 4 year.toNat
    have small : year.toNat < 10000 := by omega
    have sized : (padNat 4 year.toNat).length = 4 := length_padNat (by decide) small
    have taken :
        takeNumber (some 4) (padNat 4 year.toNat ++ rest) = some ((year.toNat : Int), rest) :=
      takeNumber_numeral numeral (by simp [sized]) stops (by omega)
    have same : (year.toNat : Int) = year := by omega
    rw [same] at taken
    obtain ⟨c, cs, parts⟩ := List.exists_cons_of_ne_nil numeral.1
    have digit : c.isDigit := numeral.2.1 c (by rw [parts]; exact List.mem_cons_self)
    rw [parts] at taken ⊢
    exact (takeSigned_of_digit digit _).trans taken
  · have taken :
        takeNumber none (padNat 4 year.natAbs ++ rest) = some ((year.natAbs : Int), rest) :=
      takeNumber_numeral (numeral_padNat 4 year.natAbs) nofun stops bound
    split
    · have same : -(year.natAbs : Int) = year := by omega
      rw [List.cons_append, takeSigned, taken]
      simp only [Option.map_some, same]
    · have same : (year.natAbs : Int) = year := by omega
      rw [List.cons_append, takeSigned, taken, same]

theorem visible_yearText (year : Int) : Visible (yearText year) := by
  rw [yearText]
  split
  · exact (numeral_padNat 4 _).visible
  · apply Visible.cons
    · split <;> decide
    · exact (numeral_padNat 4 _).visible

theorem yearText_ne_nil (year : Int) : yearText year ≠ [] := by
  rw [yearText]
  split
  · exact (numeral_padNat 4 _).1
  · exact List.cons_ne_nil _ _

theorem Fields.put?_fresh {fs : Fields} {f : Field} {value : Int}
    (inside : f.range.1 ≤ value ∧ value ≤ f.range.2) (fresh : fs.get? f = none) :
    fs.put? f value = some ⟨(f, value) :: fs.entries⟩ := by
  rw [put?, if_pos inside, fresh]

section Items

variable {next : Fields} {value : Nat} {items : List Item} {rest : List Char}

theorem readItems?_literal (fs : Fields) (c : Char) (items : List Item) (rest : List Char) :
    readItems? fs (.literal c :: items) (c :: rest) = readItems? fs items rest := by
  simp only [readItems?, Item.take?, if_pos, Option.bind_some]

theorem readItems?_space (fs : Fields) (items : List Item) (cs : List Char) :
    readItems? fs (.space :: items) cs = readItems? fs items (trimStart cs) := by
  simp only [readItems?, Item.take?, Option.bind_some]

theorem readItems?_number (fs : Fields) (n : Number) {text : List Char} {value : Int}
    (shown : trimStart text = text) (taken : n.take text = some (value, rest))
    (stored : n.put? fs value = some next) :
    readItems? fs (.number n :: items) text = readItems? next items rest := by
  simp only [readItems?, Item.take?, shown, taken, stored, bind, Option.bind, pure]

theorem readItems?_padded (fs : Fields) (n : Number) (plain : n.take = takeNumber (some 2))
    (bound : value < 100) (stops : rest.head?.all (!·.isDigit))
    (stored : n.put? fs value = some next) :
    readItems? fs (.number n :: items) (padNat 2 value ++ rest) = readItems? next items rest := by
  have numeral := numeral_padNat 2 value
  have sized : (padNat 2 value).length = 2 := length_padNat (by decide) bound
  have taken : takeNumber (some 2) (padNat 2 value ++ rest) = some ((value : Int), rest) :=
    takeNumber_numeral numeral (by simp [sized]) stops (by omega)
  exact readItems?_number fs n (trimStart_append numeral.visible numeral.1 rest)
    (plain ▸ taken) stored

theorem readItems?_field (fs : Fields) (n : Number) (f : Field)
    (plain : n.take = takeNumber (some 2)) (meant : ∀ fs value, n.put? fs value = fs.put? f value)
    (bound : value < 100) (inside : f.range.1 ≤ value ∧ value ≤ f.range.2)
    (fresh : fs.get? f = none)
    (stops : rest.head?.all (!·.isDigit)) :
    readItems? fs (.number n :: items) (padNat 2 value ++ rest) =
      readItems? ⟨(f, value) :: fs.entries⟩ items rest :=
  readItems?_padded fs n plain bound stops ((meant fs value).trans (Fields.put?_fresh inside fresh))

end Items

namespace Fields

def ofDate (d : Date) : Fields := ⟨[(.day, d.day), (.month, d.month), (.year, d.year)]⟩

def withTime (fs : Fields) (hour minute second : Nat) : Fields :=
  ⟨(.second, second) :: (.minute, minute) :: (.hourOfHalf, (hour : Int) % 12) ::
    (.halfDay, (hour : Int) / 12) :: fs.entries⟩

def withNano (fs : Fields) (nano : Nat) : Fields :=
  if nano = 0 then fs else ⟨(.nanosecond, nano) :: fs.entries⟩

end Fields

theorem day_le_31 (d : Date) : d.day ≤ 31 := by
  apply Nat.le_trans d.day_le
  unfold monthLength
  repeat' split
  all_goals omega

theorem readItems?_date (d : Date) (items : List Item) {rest : List Char}
    (stops : rest.head?.all (!·.isDigit)) :
    readItems? .empty (yearMonthDay ++ items) (d.chars ++ rest) =
      readItems? (.ofDate d) items rest := by
  have low := d.year_ge
  have high := d.year_le
  have months := d.month_range
  have days := day_le_31 d
  have first := d.day_pos
  have year : Fields.empty.put? .year d.year = some ⟨[(.year, d.year)]⟩ :=
    Fields.put?_fresh (by simp only [Field.range]; omega) rfl
  have shown := trimStart_append (visible_yearText d.year) (yearText_ne_nil d.year)
  have taken (cs : List Char) : Number.take .year (yearText d.year ++ '-' :: cs) =
      some (d.year, '-' :: cs) :=
    takeSigned_yearText (by omega) rfl
  simp only [yearMonthDay, Date.chars, List.cons_append, List.nil_append, List.append_assoc]
  rw [readItems?_number .empty .year (shown _) (taken _) year, readItems?_literal,
    readItems?_field _ .month .month rfl (fun _ _ => rfl) (by omega)
      (by simp only [Field.range]; omega) rfl rfl,
    readItems?_literal,
    readItems?_field _ .day .day rfl (fun _ _ => rfl) (by omega)
      (by simp only [Field.range]; omega) rfl stops]
  rfl

def shownSecond (t : Time) : Nat := if t.isLeap then t.second + 1 else t.second

theorem shownSecond_le (t : Time) : shownSecond t ≤ 60 := by
  have bound := t.second_lt
  unfold shownSecond
  split <;> omega

theorem putHour?_ofDate (d : Date) {hour : Nat} (bound : hour < 24) :
    (Fields.ofDate d).putHour? hour = some
      ⟨(.hourOfHalf, (hour : Int) % 12) :: (.halfDay, (hour : Int) / 12) ::
        (Fields.ofDate d).entries⟩ := by
  have half : (Fields.ofDate d).put? .halfDay ((hour : Int) / 12) =
      some ⟨(.halfDay, (hour : Int) / 12) :: (Fields.ofDate d).entries⟩ :=
    Fields.put?_fresh (by simp only [Field.range]; omega) rfl
  rw [Fields.putHour?, if_pos (by omega), half, Option.bind_some]
  exact Fields.put?_fresh (by simp only [Field.range]; omega) rfl

theorem takeFraction_padNat {places n : Nat} (some : 0 < places) (few : places ≤ 9)
    (bound : n < placeValue places) :
    takeFraction (padNat places n) = .some (((n * placeValue (9 - places) : Nat) : Int), []) := by
  have numeral := numeral_padNat places n
  have sized : (padNat places n).length = places := length_padNat some bound
  have run : (padNat places n).takeWhile Char.isDigit = padNat places n :=
    List.takeWhile_eq_self_iff.mpr numeral.2.1
  have left : (padNat places n).dropWhile Char.isDigit = [] :=
    List.dropWhile_eq_nil_iff.mpr numeral.2.1
  have whole : (padNat places n).take 9 = padNat places n :=
    List.take_of_length_le (by omega)
  have read : readNat? (padNat places n) = .some n := readNat?_eq_some_iff.mpr numeral
  simp only [takeFraction, run, left, whole, sized, read, bind, Option.bind, pure, Option.map,
    Int.natCast_mul]

theorem readItems?_fraction {fs : Fields} (fresh : fs.get? .nanosecond = none) (t : Time) :
    readItems? fs [.fraction] t.fractionChars = some (fs.withNano (t.nano % 1000000000)) := by
  have small : t.nano % 1000000000 < 1000000000 := Nat.mod_lt _ (by decide)
  rw [Time.fractionChars]
  generalize t.nano % 1000000000 = nano at small
  have point {places n : Nat} (some : 0 < places) (few : places ≤ 9) (bound : n < placeValue places)
      (value : n * placeValue (9 - places) = nano) (positive : nano ≠ 0) :
      readItems? fs [.fraction] ('.' :: padNat places n) = .some (fs.withNano nano) := by
    have stored : fs.put? .nanosecond nano = .some ⟨(.nanosecond, (nano : Int)) :: fs.entries⟩ :=
      Fields.put?_fresh (by simp only [Field.range]; omega) fresh
    simp only [readItems?, Item.take?, takeFraction_padNat some few bound, value, stored, bind,
      Option.bind, pure, List.isEmpty_nil, if_pos, Fields.withNano, if_neg positive]
  have one : placeValue 0 = 1 := rfl
  have thousand : placeValue 3 = 1000 := rfl
  have million : placeValue 6 = 1000000 := rfl
  have billion : placeValue 9 = 1000000000 := rfl
  split
  · next zero =>
    rw [zero]
    rfl
  · next positive =>
    split
    · exact point (by decide) (by decide) (by omega) (by rw [million]; omega) positive
    · split
      · exact point (by decide) (by decide) (by omega) (by rw [thousand]; omega) positive
      · exact point (by decide) (by decide) (by omega) (by rw [one]; omega) positive

theorem fractionChars_stops (t : Time) : t.fractionChars.head?.all (!·.isDigit) := by
  rw [Time.fractionChars]
  split
  · rfl
  · split
    · rfl
    · split <;> rfl

def Fields.ofTimestamp (ts : Timestamp) : Fields :=
  ((Fields.ofDate ts.date).withTime ts.time.hour ts.time.minute (shownSecond ts.time)).withNano
    (ts.time.nano % 1000000000)

theorem readItems?_time (d : Date) (t : Time) :
    readItems? (.ofDate d) (hourMinuteSecond ++ [.fraction]) t.chars =
      some (.ofTimestamp ⟨d, t⟩) := by
  have hours := t.hour_lt
  have minutes := t.minute_lt
  have seconds := shownSecond_le t
  simp only [hourMinuteSecond, hourMinute, Time.chars, List.cons_append, List.nil_append,
    List.append_assoc]
  rw [← shownSecond,
    readItems?_padded (.ofDate d) .hour rfl (by omega) rfl (putHour?_ofDate d hours),
    readItems?_literal,
    readItems?_field _ .minute .minute rfl (fun _ _ => rfl) (by omega)
      (by simp only [Field.range]; omega) rfl rfl,
    readItems?_literal,
    readItems?_field _ .second .second rfl (fun _ _ => rfl) (by omega)
      (by simp only [Field.range]; omega) rfl (fractionChars_stops t),
    readItems?_fraction rfl]
  rfl

namespace Fields

variable {fs : Fields}

theorem get?_ofDate (d : Date) (f : Field) :
    (ofDate d).get? f = none ∨ (ofDate d).get? f = dateField d f := by
  cases f with
  | year | month | day => exact .inr rfl
  | _ => exact .inl rfl

theorem agree_of_same {d : Date} (same : ∀ f ∈ dateFields, fs.get? f = (ofDate d).get? f) :
    fs.agree d := by
  rw [agree, List.all_eq_true]
  intro f member
  rw [same f member]
  rcases get?_ofDate d f with missing | own
  · rw [missing]
    rfl
  · rw [own, beq_self_eq_true, Bool.or_true]

theorem date_eq {d : Date} (same : ∀ f ∈ dateFields, fs.get? f = (ofDate d).get? f) :
    fs.date = .ok d := by
  have year : fs.get? .year = some d.year := same .year (by decide)
  have month : fs.get? .month = some (d.month : Int) := same .month (by decide)
  have day : fs.get? .day = some (d.day : Int) := same .day (by decide)
  have century : fs.get? .century = none := same .century (by decide)
  have rest : fs.get? .yearOfCentury = none := same .yearOfCentury (by decide)
  have isoYear : fs.get? .isoYear = none := same .isoYear (by decide)
  have isoRest : fs.get? .isoYearOfCentury = none := same .isoYearOfCentury (by decide)
  have made : Date.of? d.year d.month d.day = some d := Date.of?_eq_some_iff.mpr ⟨rfl, rfl, rfl⟩
  have found : fs.candidate (some d.year) none = .ok d := by
    simp only [candidate, month, day, Int.toNat_natCast, made, orFault]
  simp only [date, year, century, rest, isoYear, isoRest, resolveYear, bind, Except.bind, found,
    agree_of_same same, if_pos]

theorem second_nano {t : Time} (kept : ¬ t.Stray) :
    (if (shownSecond t : Int) = 60 then (59, ((t.nano % 1000000000 : Nat) : Int) + 1000000000)
      else ((shownSecond t : Int), ((t.nano % 1000000000 : Nat) : Int))) =
      ((t.second : Int), (t.nano : Int)) := by
  have bound := t.nano_lt
  have seconds := t.second_lt
  by_cases leap : t.isLeap
  · have long : 1000000000 ≤ t.nano := by simpa [Time.isLeap] using leap
    have last : t.second = 59 := by
      by_contra other
      exact kept ⟨leap, other⟩
    rw [shownSecond, if_pos leap, last, if_pos (by omega), Prod.mk.injEq]
    omega
  · have short : t.nano < 1000000000 := by simpa [Time.isLeap] using leap
    rw [shownSecond, if_neg leap, if_neg (by omega), Nat.mod_eq_of_lt short]

theorem time_eq {t : Time} (kept : ¬ t.Stray) (half : fs.get? .halfDay = some ((t.hour : Int) / 12))
    (hour : fs.get? .hourOfHalf = some ((t.hour : Int) % 12))
    (minute : fs.get? .minute = some (t.minute : Int))
    (second : fs.get? .second = some (shownSecond t : Int))
    (nano : (fs.get? .nanosecond).getD 0 = ((t.nano % 1000000000 : Nat) : Int)) :
    fs.time = .ok t := by
  have made : Time.of? t.hour t.minute t.second t.nano = some t :=
    Time.of?_eq_some_iff.mpr ⟨⟨rfl, rfl, rfl, rfl⟩, kept⟩
  have hours : ((t.hour : Int) / 12 * 12 + (t.hour : Int) % 12).toNat = t.hour := by omega
  simp only [time, half, hour, minute, second, nano, second_nano kept, hours, Option.getD_some,
    Option.isNone_some, Bool.and_false, Bool.false_eq_true, if_false, Int.toNat_natCast, made,
    orFault]

theorem get?_withNano (fs : Fields) (nano : Nat) {f : Field} (other : f ≠ .nanosecond) :
    (fs.withNano nano).get? f = fs.get? f := by
  rw [withNano]
  split
  · rfl
  · rw [get?, List.lookup_cons, beq_eq_false_iff_ne.mpr other, get?]

theorem getD_withNano (nano : Nat) (fresh : fs.get? .nanosecond = none) :
    ((fs.withNano nano).get? .nanosecond).getD 0 = (nano : Int) := by
  rw [withNano]
  split
  · next zero =>
    rw [fresh, zero]
    rfl
  · rw [get?, List.lookup_cons_self, Option.getD_some]

theorem timestamp?_ofTimestamp {ts : Timestamp} (kept : ¬ ts.time.Stray) :
    (ofTimestamp ts).timestamp? = some ts := by
  have date : (ofTimestamp ts).date = .ok ts.date := by
    apply date_eq
    intro f member
    have other : f ≠ .nanosecond := by
      rintro rfl
      exact absurd member (by decide)
    rw [ofTimestamp, get?_withNano _ _ other]
    cases f with
    | halfDay | hourOfHalf | minute | second | nanosecond => exact absurd member (by decide)
    | _ => rfl
  have time : (ofTimestamp ts).time = .ok ts.time :=
    time_eq kept (get?_withNano _ _ (by decide)) (get?_withNano _ _ (by decide))
      (get?_withNano _ _ (by decide)) (get?_withNano _ _ (by decide)) (getD_withNano _ rfl)
  have epoch : (ofTimestamp ts).epochAgrees ts := by
    have none : (ofTimestamp ts).get? .epochSecond = none := get?_withNano _ _ (by decide)
    rw [epochAgrees, none]
  simp only [timestamp?, date, time, Option.filter, epoch, if_pos]

end Fields

theorem items?_date : items? defaultDateFormat = some yearMonthDay := by decide +kernel

theorem items?_timestamp : items? "%Y-%m-%d %H:%M:%S%.f".toList =
    some (yearMonthDay ++ .space :: (hourMinuteSecond ++ [.fraction])) := by decide +kernel

end RecordRows.Calendar

namespace RecordRows

open Calendar Text

theorem Date.visible_chars (d : Date) : Visible d.chars := by
  have month := (numeral_padNat 2 d.month).visible.cons (c := '-') (by decide)
  have day := (numeral_padNat 2 d.day).visible.cons (c := '-') (by decide)
  exact ((visible_yearText d.year).append month).append day

theorem Time.visible_fractionChars (t : Time) : Visible t.fractionChars := by
  have point (places n : Nat) : Visible ('.' :: padNat places n) :=
    (numeral_padNat places n).visible.cons (by decide)
  rw [fractionChars]
  split
  · exact nofun
  · split
    · exact point 3 _
    · split
      · exact point 6 _
      · exact point 9 _

theorem Time.visible_chars (t : Time) : Visible t.chars := by
  have hour := (numeral_padNat 2 t.hour).visible
  have minute := (numeral_padNat 2 t.minute).visible.cons (c := ':') (by decide)
  have second := (numeral_padNat 2 (shownSecond t)).visible.cons (c := ':') (by decide)
  exact ((hour.append minute).append second).append t.visible_fractionChars

theorem Date.chars_ne_nil (d : Date) : d.chars ≠ [] := by simp [chars]

theorem Time.chars_ne_nil (t : Time) : t.chars ≠ [] := by simp [chars]

theorem Date.read?_chars (d : Date) : Date.read? d.chars defaultDateFormat = some d := by
  have read : readItems? .empty (yearMonthDay ++ []) (d.chars ++ []) =
      readItems? (.ofDate d) [] [] :=
    readItems?_date d [] rfl
  rw [List.append_nil, List.append_nil] at read
  rw [Date.read?, readFields?, items?_date, Option.bind_some, read, readItems?, List.isEmpty_nil,
    if_pos rfl, Option.bind_some, Fields.date_eq fun _ _ => rfl]
  rfl

theorem Timestamp.read?_chars {ts : Timestamp} (kept : ¬ ts.time.Stray) :
    Timestamp.read? (ts.date.chars ++ ' ' :: ts.time.chars) "%Y-%m-%d %H:%M:%S%.f".toList =
      some ts := by
  have gap : trimStart (' ' :: ts.time.chars) = ts.time.chars :=
    trimStart_visible ts.time.visible_chars
  rw [Timestamp.read?, readFields?, items?_timestamp, Option.bind_some, readItems?_date _ _ rfl,
    readItems?_space, gap, readItems?_time, Option.bind_some,
    Fields.timestamp?_ofTimestamp kept]
  rfl

/-- The time that the text of this one shows: where a leap second is stray, it is the
next second. -/
def Time.shown (t : Time) : Time :=
  if stray : t.Stray then
    { t with
      second := t.second + 1
      nano := t.nano - 1000000000
      second_lt := Nat.lt_of_le_of_ne t.second_lt (mt Nat.succ.inj stray.2)
      nano_lt := Nat.lt_of_le_of_lt (Nat.sub_le ..) t.nano_lt }
  else t

namespace Time

theorem shown_of_kept {t : Time} (kept : ¬ t.Stray) : t.shown = t := dif_neg kept

theorem shown_nano_lt {t : Time} (stray : t.Stray) : t.shown.nano < 1000000000 := by
  have bound := t.nano_lt
  rw [shown, dif_pos stray]
  dsimp only
  omega

theorem not_stray_shown (t : Time) : ¬ t.shown.Stray := by
  by_cases stray : t.Stray
  · exact not_stray_iff.mpr (.inl (shown_nano_lt stray))
  · rwa [shown_of_kept stray]

theorem chars_shown (t : Time) : t.shown.chars = t.chars := by
  by_cases stray : t.Stray
  · have long : 1000000000 ≤ t.nano := by simpa [isLeap] using stray.1
    have short := shown_nano_lt stray
    have second : shownSecond t.shown = shownSecond t := by
      have unleapt : ¬ t.shown.isLeap := by simpa [isLeap] using short
      rw [shownSecond, if_neg unleapt, shownSecond, if_pos stray.1, shown, dif_pos stray]
    have decimals : t.shown.nano % 1000000000 = t.nano % 1000000000 := by
      rw [shown, dif_pos stray]
      dsimp only
      omega
    have hour : t.shown.hour = t.hour := by rw [shown, dif_pos stray]
    have minute : t.shown.minute = t.minute := by rw [shown, dif_pos stray]
    rw [chars, chars, ← shownSecond, ← shownSecond, second, hour, minute, fractionChars,
      fractionChars, decimals]
  · rw [shown_of_kept stray]

end Time

def Timestamp.shown (ts : Timestamp) : Timestamp := ⟨ts.date, ts.time.shown⟩

theorem Timestamp.shown_of_kept {ts : Timestamp} (kept : ¬ ts.time.Stray) : ts.shown = ts := by
  rw [shown, Time.shown_of_kept kept]

def Timestamp.earlyLeap : Timestamp where
  date := ⟨2015, 6, 30, by decide, by decide, by decide, by decide⟩
  time := ⟨22, 56, 4, 1333333333, by decide, by decide, by decide, by decide⟩

theorem Timestamp.shown_earlyLeap : earlyLeap.shown ≠ earlyLeap := by decide

theorem Timestamp.text_shown (ts : Timestamp) : ts.shown.text = ts.text := by
  rw [text, shown, ts.time.chars_shown, text]

namespace Value

theorem toDate_text (d : Date) : (string d.text).toDate none = .ok (some d) := by
  have kept : trim d.text.toList = d.chars := by
    rw [Date.text, String.toList_ofList, trim_visible d.visible_chars]
  have read : Date.read? d.chars ((Option.map String.toList none).getD defaultDateFormat) =
      some d :=
    d.read?_chars
  rw [toDate, readText, kept, read]
  rfl

theorem toTimestamp_text_of_kept {ts : Timestamp} (kept : ¬ ts.time.Stray) :
    (string ts.text).toTimestamp none = .ok (some ts) := by
  have trimmed : trim ts.text.toList = ts.date.chars ++ ' ' :: ts.time.chars := by
    rw [Timestamp.text, String.toList_ofList]
    exact trim_between ts.date.visible_chars ts.date.chars_ne_nil ts.time.visible_chars
      ts.time.chars_ne_nil [' ']
  have read : readByFormats? ((Option.map String.toList none).toList ++ defaultTimestampFormats)
      (ts.date.chars ++ ' ' :: ts.time.chars) = some ts := by
    have first := Timestamp.read?_chars kept
    simp only [readByFormats?, defaultTimestampFormats, Option.map_none, Option.toList_none,
      List.nil_append, List.findSome?_cons, first]
  rw [toTimestamp, readText, trimmed, read]
  rfl

/-- A stray leap second has the text of the second after it. -/
theorem toTimestamp_text (ts : Timestamp) :
    (string ts.text).toTimestamp none = .ok (some ts.shown) := by
  rw [← ts.text_shown]
  exact toTimestamp_text_of_kept ts.time.not_stray_shown

end Value

end RecordRows
