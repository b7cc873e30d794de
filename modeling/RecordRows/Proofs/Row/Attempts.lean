import Mathlib.Data.List.Basic
import RecordRows.Row.TimestampParser
/-! The timestamp of a text is what the first successful attempt reads: by the declared format, by
the default ones, and by the configured ones in their order. -/

namespace RecordRows

open Text

@[simp] theorem orError_eq_error_iff {α : Type} {error other : ValueError} {result : Option α} :
    orError error result = .error other ↔ result = none ∧ error = other := by
  cases result <;> simp [orError]

namespace Value

def Unread {α : Type} (result : Coerced α) : Prop :=
  ∃ input target, result = .error (.unparseable input target)

theorem toLong_not_unread {v : Value} (other : ∀ s, v ≠ .string s) : ¬ Unread v.toLong := by
  rintro ⟨input, target, failed⟩
  cases v with
  | string s => exact other s rfl
  | _ => simp [toLong, doubleToLong, mismatch] at failed

theorem toTimestamp_not_unread {v : Value} (other : ∀ s, v ≠ .string s) (format : Option String) :
    ¬ Unread (v.toTimestamp format) := by
  have read : ¬ Unread v.numberToTimestamp := by
    rintro ⟨input, target, failed⟩
    rw [numberToTimestamp] at failed
    split at failed
    · next error =>
      cases failed
      exact toLong_not_unread other ⟨input, target, error⟩
    · cases failed
    · simp [ofEpochMilli] at failed
  rintro ⟨input, target, failed⟩
  cases v with
  | string s => exact other s rfl
  | int | long | float | double | decimal => exact read ⟨input, target, failed⟩
  | _ => simp [toTimestamp, mismatch] at failed

theorem toTimestamp_format {v : Value} (other : ∀ s, v ≠ .string s) (format : Option String) :
    v.toTimestamp format = v.toTimestamp none := by
  cases v with
  | string s => exact absurd rfl (other s)
  | _ => rfl

end Value

namespace TimestampParser

/-- A way to read a timestamp. -/
inductive Attempt where
  | byFormat (format : List Char)
  /-- A count of milliseconds since the start of 1970, which a long holds. -/
  | millis
  deriving DecidableEq

namespace Attempt

def read? (text : List Char) : Attempt → Option Timestamp
  | byFormat format => Timestamp.read? text format
  | millis => (readLong? text).bind fun n => Timestamp.ofEpochMilli? n.toInt

def ofFormat (format : List Char) : Attempt :=
  if sameIgnoringAsciiCase format millisFormat then millis else byFormat format

def configured? (format : String) : Option Attempt :=
  if trim format.toList = [] then none else some (ofFormat (trim format.toList))

end Attempt

def attempts (declared : Option String) (configured : List String) : List Attempt :=
  (declared.toList.map fun format => .byFormat format.toList) ++
    defaultTimestampFormats.map .byFormat ++ configured.filterMap Attempt.configured?

/-- The first attempt that reads something reads this. -/
def FirstRead (attempts : List Attempt) (text : List Char) (ts : Timestamp) : Prop :=
  ∃ before attempt after, attempts = before ++ attempt :: after ∧ attempt.read? text = some ts ∧
    ∀ earlier ∈ before, earlier.read? text = none

theorem firstRead_iff {attempts : List Attempt} {text : List Char} {ts : Timestamp} :
    FirstRead attempts text ts ↔ attempts.findSome? (Attempt.read? text) = some ts :=
  List.findSome?_eq_some_iff.symm

theorem FirstRead.append {attempts : List Attempt} {text : List Char} {ts : Timestamp}
    (first : FirstRead attempts text ts) (more : List Attempt) :
    FirstRead (attempts ++ more) text ts := by
  rw [firstRead_iff] at first
  rw [firstRead_iff, List.findSome?_append, first, Option.some_or]

theorem attempts_append (declared : Option String) (configured more : List String) :
    attempts declared (configured ++ more) =
      attempts declared configured ++ more.filterMap Attempt.configured? := by
  rw [attempts, attempts, List.filterMap_append, ← List.append_assoc]

theorem readBy?_eq (text : List Char) (format : String) :
    readBy? text format = (Attempt.ofFormat format.toList).read? text := by
  rw [readBy?, Attempt.ofFormat]
  split <;> rfl

theorem map_formats (configured : List String) :
    (ofFormats configured).formats.map (Attempt.ofFormat ·.toList) =
      configured.filterMap Attempt.configured? := by
  induction configured with
  | nil => rfl
  | cons format configured ih =>
    rw [ofFormats] at ih
    by_cases blank : trim format.toList = []
    · rw [List.filterMap_cons_none (by rw [Attempt.configured?, if_pos blank]), ← ih, ofFormats,
        List.map_cons, List.filter_cons_of_neg (by rw [blank]; decide)]
    · have shown : !(String.ofList (trim format.toList)).isEmpty := by
        simpa [String.isEmpty_iff, String.ext_iff] using blank
      rw [List.filterMap_cons_some (by rw [Attempt.configured?, if_neg blank]), ← ih, ofFormats,
        List.map_cons, List.filter_cons, if_pos shown, List.map_cons, String.toList_ofList]

theorem findSome?_formats (text : List Char) (configured : List String) :
    (ofFormats configured).formats.findSome? (readBy? text) =
      (configured.filterMap Attempt.configured?).findSome? (Attempt.read? text) := by
  rw [← map_formats, List.findSome?_map]
  congr 1
  funext format
  exact readBy?_eq text format

def outcome (s : String) : Option Timestamp → Except FieldError (Option Timestamp)
  | some ts => .ok (some ts)
  | none => .error (.timestamp s)

@[simp] theorem outcome_eq_ok_iff {s : String} {read : Option Timestamp} {ts : Timestamp} :
    outcome s read = .ok (some ts) ↔ read = some ts := by
  cases read <;> simp [outcome]

@[simp] theorem outcome_ne_none {s : String} {read : Option Timestamp} :
    outcome s read ≠ .ok none := by
  cases read <;> simp [outcome]

@[simp] theorem outcome_eq_error_iff {s : String} {read : Option Timestamp} {e : FieldError} :
    outcome s read = .error e ↔ e = .timestamp s ∧ read = none := by
  cases read <;> simp [outcome, eq_comm]

theorem parse_text (configured : List String) (declared : Option String) (s : String) :
    (ofFormats configured).parse (.string s) declared =
      outcome s ((attempts declared configured).findSome? (Attempt.read? (trim s.toList))) := by
  have known : Value.readByFormats? ((declared.map String.toList).toList ++ defaultTimestampFormats)
      (trim s.toList) = (attempts declared []).findSome? (Attempt.read? (trim s.toList)) := by
    rw [attempts, List.filterMap_nil, List.append_nil, Value.readByFormats?]
    cases declared <;> simp [List.findSome?_map] <;> rfl
  have all := attempts_append declared [] configured
  rw [List.nil_append] at all
  rw [all, List.findSome?_append, parse, Value.toTimestamp, readText, known]
  cases (attempts declared []).findSome? (Attempt.read? (trim s.toList)) with
  | some ts => rfl
  | none =>
    rw [← findSome?_formats]
    rfl

theorem parse_text_eq_ok_iff {configured : List String} {declared : Option String} {s : String}
    {ts : Timestamp} : (ofFormats configured).parse (.string s) declared = .ok (some ts) ↔
      FirstRead (attempts declared configured) (trim s.toList) ts := by
  rw [parse_text, firstRead_iff, outcome_eq_ok_iff]

theorem parse_text_eq_error_iff {configured : List String} {declared : Option String} {s : String}
    {e : FieldError} : (ofFormats configured).parse (.string s) declared = .error e ↔
      e = .timestamp s ∧
        ∀ attempt ∈ attempts declared configured, attempt.read? (trim s.toList) = none := by
  rw [parse_text, ← List.findSome?_eq_none_iff, outcome_eq_error_iff]

theorem parse_other (p q : TimestampParser) {v : Value} (other : ∀ s, v ≠ .string s)
    (format declared : Option String) : p.parse v format = q.parse v declared := by
  have readable := Value.toTimestamp_not_unread other none
  rw [parse, parse, Value.toTimestamp_format other format, Value.toTimestamp_format other declared]
  split
  · rfl
  · next input target failed => exact absurd ⟨input, target, failed⟩ readable
  · rfl

/-- The timestamp of a text is what the first successful attempt reads in the text without the white
space around it, and the text as it is stands in the error where all attempts fail. More formats
change no timestamp, and a timestamp that a value itself gives is the same for all formats. Other
values than texts are not read by formats. -/
theorem parse_first_match :
    (∀ configured declared s ts, (ofFormats configured).parse (.string s) declared = .ok (some ts) ↔
      FirstRead (attempts declared configured) (trim s.toList) ts) ∧
    (∀ configured declared s e, (ofFormats configured).parse (.string s) declared = .error e ↔
      e = .timestamp s ∧
        ∀ attempt ∈ attempts declared configured, attempt.read? (trim s.toList) = none) ∧
    (∀ configured more declared v ts, (ofFormats configured).parse v declared = .ok ts →
      (ofFormats (configured ++ more)).parse v declared = .ok ts) ∧
    (∀ declared s ts, (Value.string s).toTimestamp declared = .ok ts →
      ∀ configured, (ofFormats configured).parse (.string s) declared = .ok ts) ∧
    ∀ v, (∀ s, v ≠ .string s) → ∀ configured others declared format,
      (ofFormats configured).parse v declared = (ofFormats others).parse v format := by
  refine ⟨fun _ _ _ _ => parse_text_eq_ok_iff, fun _ _ _ _ => parse_text_eq_error_iff, ?_, ?_, ?_⟩
  · intro configured more declared v ts accepted
    by_cases text : ∃ s, v = .string s
    · obtain ⟨s, rfl⟩ := text
      cases ts with
      | none =>
        rw [parse_text] at accepted
        exact absurd accepted outcome_ne_none
      | some ts =>
        rw [parse_text_eq_ok_iff] at accepted ⊢
        rw [attempts_append]
        exact accepted.append _
    · rw [parse_other _ (ofFormats configured) (not_exists.mp text) declared declared]
      exact accepted
  · intro declared s ts read configured
    rw [parse, read]
  · intro v other configured others declared format
    exact parse_other _ _ other declared format

theorem parse_first_match_ambiguous :
    let formats := [" %d/%m/%Y ", "", "Millis"]
    let fourth : Timestamp := .ofDate ⟨2020, 4, 3, by decide, by decide, by decide, by decide⟩
    FirstRead (attempts none formats) (trim "\t03/04/2020 ".toList) fourth ∧
      (ofFormats (formats ++ ["%m/%d/%Y"])).parse (.string "\t03/04/2020 ") none =
        .ok (some fourth) ∧
      (ofFormats formats).parse (.string " 3.4.2020") none = .error (.timestamp " 3.4.2020") ∧
      (ofFormats formats).parse (.bool true) none =
        (ofFormats []).parse (.bool true) (some "%Y") := by
  intro formats fourth
  obtain ⟨accepts, rejects, more, -, others⟩ := parse_first_match
  have first : FirstRead (attempts none formats) (trim "\t03/04/2020 ".toList) fourth :=
    ⟨defaultTimestampFormats.map .byFormat, .byFormat "%d/%m/%Y".toList, [.millis],
      rfl, by decide +kernel, by decide +kernel⟩
  have unread :
      ∀ attempt ∈ attempts none formats, attempt.read? (trim " 3.4.2020".toList) = none := by
    decide +kernel
  refine ⟨first, more _ _ _ _ _ ((accepts _ _ _ _).mpr first),
    (rejects _ _ _ _).mpr ⟨rfl, unread⟩, ?_⟩
  exact others (.bool true) (fun _ => nofun) _ _ _ _

end TimestampParser

end RecordRows
