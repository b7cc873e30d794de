import RecordRows.Proofs.Calendar.RoundTrip
import RecordRows.Proofs.Decimal.RoundTrip
import RecordRows.Proofs.Value.Range
/-! The texts of booleans, integers, decimals, dates and timestamps are coerced back to what they
are the text of, also with white space around them. -/

namespace RecordRows

open Text

namespace Text

theorem readInt?_unsigned {c : Char} (minus : c ≠ '-') (plus : c ≠ '+') (cs : List Char) :
    readInt? (c :: cs) = (readNat? (c :: cs)).map Int.ofNat := by
  unfold readInt?
  split
  · next same =>
    cases same
    exact absurd rfl plus
  · next same =>
    cases same
    exact absurd rfl minus
  · rfl

theorem readInt?_natChars (n : Nat) : readInt? (natChars n) = some (n : Int) := by
  have read : readNat? (natChars n) = some n := readNat?_eq_some_iff.mpr (numeral_natChars n)
  obtain ⟨c, cs, parts⟩ := List.exists_cons_of_ne_nil (natChars_ne_nil n)
  have digit : c.isDigit := natChars_digits n c (by rw [parts]; exact List.mem_cons_self)
  rw [parts] at read ⊢
  rw [readInt?_unsigned _ _ cs, read]
  · rfl
  · rintro rfl
    cases digit
  · rintro rfl
    cases digit

theorem readInt?_intChars (n : Int) : readInt? (intChars n) = some n := by
  rw [intChars]
  split
  · have read : readNat? (natChars n.natAbs) = some n.natAbs :=
      readNat?_eq_some_iff.mpr (numeral_natChars _)
    have same : -Int.ofNat n.natAbs = n := by
      have whole : Int.ofNat n.natAbs = (n.natAbs : Int) := rfl
      omega
    rw [readInt?, read, Option.map_some, same]
  · have same : (n.natAbs : Int) = n := by omega
    rw [readInt?_natChars, same]

theorem visible_intChars (n : Int) : Visible (intChars n) := by
  rw [intChars]
  split
  · exact (numeral_natChars _).visible.cons (by decide)
  · exact (numeral_natChars _).visible

theorem trim_intText (n : Int) : trim (intText n).toList = intChars n := by
  rw [intText, String.toList_ofList, trim_visible (visible_intChars n)]

end Text

theorem readLong?_intChars (n : Int64) : readLong? (intChars n.toInt) = some n := by
  rw [readLong?, readInt?_intChars, Option.bind_some, int64?_toInt]

namespace Value

theorem readText_padded {α : Type} {target : Target} {read? : List Char → Option α}
    {s : String} {a : α} {before after : String} (front : Blank before.toList)
    (back : Blank after.toList)
    (read : readText target read? s = .ok (some a)) :
    readText target read? (before ++ s ++ after) = .ok (some a) := by
  have kept : trim (before ++ s ++ after).toList = trim s.toList := by
    rw [String.toList_append, String.toList_append, List.append_assoc]
    exact trim_padded front back s.toList
  rw [readText] at read
  rw [readText, kept]
  cases found : read? (trim s.toList) with
  | some own =>
    rw [found] at read
    exact read
  | none =>
    rw [found] at read
    cases read

theorem toLong_text (n : Int64) : (string (intText n.toInt)).toLong = .ok (some n) := by
  rw [toLong, readText, trim_intText, readLong?_intChars]
  rfl

theorem toBool_text (b : Bool) : (string (bool b).text).toBool = .ok (some b) := by
  cases b <;> decide

/-- The value has a text, which is coerced to this with the white space around it. -/
def ReadsBack {α : Type} (before after : String) (v : Value) (coerce : Value → Coerced α) (a : α) :
    Prop :=
  ∃ text, v.toText = .ok (some text) ∧ coerce (string (before ++ text ++ after)) = .ok (some a)

section Padded

variable {before after : String} (front : Blank before.toList) (back : Blank after.toList)
include front back

theorem readsBack_of_read {α : Type} {v : Value} {coerce : Value → Coerced α} {a : α}
    {text : String} {target : Target} {read? : List Char → Option α}
    (read : coerce (string text) = .ok (some a))
    (shown : v.toText = .ok (some text))
    (reads : ∀ s, coerce (string s) = readText target read? s) :
    ReadsBack before after v coerce a := by
  rw [reads] at read
  refine ⟨text, shown, ?_⟩
  rw [reads]
  exact readText_padded front back read

theorem readsBack_int (n : Int32) : ReadsBack before after (int n) toInt n := by
  have read := toLong_text (Int64.ofInt n.toInt)
  rw [toInt_ofInt_toInt] at read
  exact ⟨intText n.toInt, rfl, toInt_of_toLong (readText_padded front back read)⟩

theorem readsBack_timestamp (ts : Timestamp) :
    ReadsBack before after (timestamp ts) (toTimestamp none) ts.shown :=
  readsBack_of_read front back (toTimestamp_text ts) rfl fun _ => rfl

/-- With any white space around it, the text of a boolean, of an integer, of a date or of a
timestamp is coerced to what it is the text of, and the text of a decimal to a decimal of the same
value and scale. But a leap second that is not the last second of a minute has the text of the
second after it, and is coerced to that. -/
theorem text_read_back :
    (∀ b, ReadsBack before after (bool b) toBool b) ∧
    (∀ n, ReadsBack before after (int n) toInt n) ∧
    (∀ n, ReadsBack before after (long n) toLong n) ∧
    (∀ d : Decimal, ∃ e : Decimal, ReadsBack before after (decimal d) toDecimal e ∧
      e.toRat = d.toRat ∧ e.scale = d.scale) ∧
    (∀ d, ReadsBack before after (date d) (toDate none) d) ∧
    (∀ ts, ¬ ts.time.Stray → ReadsBack before after (timestamp ts) (toTimestamp none) ts) ∧
    ∀ ts, ts.time.Stray → ReadsBack before after (timestamp ts) (toTimestamp none) ts.shown := by
  refine ⟨fun b => ?_, readsBack_int front back, fun n => ?_, fun d => ?_, fun d => ?_,
    fun ts kept => ?_, fun ts _ => readsBack_timestamp front back ts⟩
  · exact readsBack_of_read front back (toBool_text b) (by cases b <;> rfl) fun _ => rfl
  · exact readsBack_of_read front back (toLong_text n) rfl fun _ => rfl
  · have read : ReadsBack before after (decimal d) toDecimal d.unsigned :=
      readsBack_of_read front back d.toDecimal_text rfl fun _ => rfl
    exact ⟨d.unsigned, read, d.toRat_unsigned, rfl⟩
  · have reads (s : String) :
        toDate none (string s) = readText .date (Date.read? · defaultDateFormat) s := rfl
    exact readsBack_of_read front back (toDate_text d) rfl reads
  · have read := readsBack_timestamp front back ts
    rwa [Timestamp.shown_of_kept kept] at read

end Padded

theorem text_read_back_leap : Blank "\t\n".toList ∧ Blank "\u3000".toList ∧
    ∃ ts : Timestamp, ts.date.year = -1 ∧ ts.time.isLeap ∧
      ReadsBack "\t\n" "\u3000" (timestamp ts) (toTimestamp none) ts := by
  have front : Blank "\t\n".toList := by
    unfold Blank
    decide
  have back : Blank "\u3000".toList := by
    unfold Blank
    decide
  let ts : Timestamp :=
    ⟨⟨-1, 12, 31, by decide, by decide, by decide, by decide⟩,
      ⟨23, 59, 59, 1000000500, by decide, by decide, by decide, by decide⟩⟩
  have kept : ¬ ts.time.Stray := by decide
  exact ⟨front, back, ts, rfl, rfl, (text_read_back front back).2.2.2.2.2.1 ts kept⟩

/-- The text of 22:56:04 and a third of a leap second is that of the next second and a third
of it. -/
theorem text_read_back_next :
    ¬∀ (before after : String), Blank before.toList → Blank after.toList →
      ∀ ts, ReadsBack before after (timestamp ts) (toTimestamp none) ts := by
  intro same
  have none : Blank "".toList := nofun
  obtain ⟨text, shown, read⟩ := same "" "" none none .earlyLeap
  obtain ⟨other, again, next⟩ := readsBack_timestamp none none .earlyLeap
  cases shown.symm.trans again
  exact Timestamp.shown_earlyLeap (Option.some.inj (Except.ok.inj (next.symm.trans read)))

end Value

end RecordRows
