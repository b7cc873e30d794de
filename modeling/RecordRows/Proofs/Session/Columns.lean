import RecordRows.Proofs.Decimal.Binary
import RecordRows.Proofs.Decimal.Plain
import RecordRows.Proofs.Session.Contents
import RecordRows.Proofs.Text.Runs
import RecordRows.Proofs.Traversal
import RecordRows.Proofs.Value.Narrowing
/-! What columns hold of a value. Most hold what a declared type of their own makes of it: numbers
of a width the number that the value is rounded to, and integers its integer part. -/

namespace RecordRows

open Text

namespace Binary

variable {v w : Width} {x : Binary v} {y : Binary w}

structure Becomes (x : Binary v) (y : Binary w) : Prop where
  nan : x.isNaN → y = nan w
  infinite : ¬ x.isNaN → ¬ x.isFinite → y = infinite w x.negative
  finite : x.isFinite → y.Rounds x.negative x.absolute

theorem absolute_nonneg (x : Binary v) : 0 ≤ x.absolute := x.absolute_eq ▸ worth_nonneg v _

theorem becomes_iff : x.Becomes y ↔ y = x.convert w := by
  have rounds : y.Rounds x.negative x.absolute ↔ y = round w x.negative x.absolute :=
    rounds_iff x.absolute_nonneg
  rw [convert]
  by_cases nan : x.isNaN
  · have infinite : ¬ x.isFinite := fun finite => by simp [isNaN_of_isFinite finite] at nan
    rw [if_pos nan]
    exact ⟨fun becomes => becomes.nan nan,
      fun same => ⟨fun _ => same, (absurd nan ·), (absurd · infinite)⟩⟩
  · rw [if_neg nan]
    by_cases finite : x.isFinite
    · rw [if_pos finite, ← rounds]
      exact ⟨fun becomes => becomes.finite finite,
        fun same => ⟨(absurd · nan), fun _ => (absurd finite ·), fun _ => same⟩⟩
    · rw [if_neg finite]
      exact ⟨fun becomes => becomes.infinite nan finite,
        fun same => ⟨(absurd · nan), fun _ _ => same, (absurd · finite)⟩⟩

theorem rounds_ofInt_iff {n : ℤ} : y.Rounds (n < 0) |(n : ℚ)| ↔ y = ofInt w n := by
  have magnitude : ((n.natAbs : ℕ) : ℚ) = |(n : ℚ)| := by rw [Nat.cast_natAbs, Int.cast_abs]
  rw [rounds_iff (abs_nonneg _), ofInt, magnitude]

section Plain

variable {t : Plain}

theorem readMagnitude?_plain (negative : Bool) :
    readMagnitude? w negative (t.whole ++ t.pointed) = some (round w negative |t.value|) := by
  have stops : ∀ c ∈ t.pointed.head?, c.isDigit = false := by
    rw [Plain.pointed]
    cases t.fraction with
    | none =>
      intro c found
      cases found
    | some digits =>
      rintro _ ⟨⟩
      rfl
  have magnitude : |t.value| = t.units * 10 ^ (0 - t.places : ℤ) := by
    rw [Plain.value, abs_signed, abs_of_nonneg (by positivity), zero_sub, zpow_neg, zpow_natCast,
      div_eq_mul_inv]
  have some : t.whole = [] → t.fraction.getD [] ≠ [] := by
    intro empty none
    exact t.nonempty (by rw [empty, none]; rfl)
  have behind := Plain.digit_of_fraction (t := t)
  simp only [readMagnitude?, takeWhile_run Plain.digit_of_whole stops,
    dropWhile_run Plain.digit_of_whole stops]
  rw [magnitude, ← ofScientific_eq, Plain.units, Plain.places, Plain.pointed]
  cases parts : t.fraction with
  | none =>
    rw [parts] at some
    have present : t.whole ≠ [] := fun empty => some empty rfl
    simp [present, readExponent?]
  | some digits =>
    rw [parts, Option.getD_some] at behind some
    have whole : (digits ++ []).takeWhile Char.isDigit = digits := takeWhile_run behind (by simp)
    have rest : (digits ++ []).dropWhile Char.isDigit = [] := dropWhile_run behind (by simp)
    rw [List.append_nil] at whole rest
    simp only [whole, rest, readExponent?, Option.map_some, Option.getD_some]
    rw [if_neg]
    simpa using some

theorem readUnsigned?_plain (negative : Bool) :
    readUnsigned? w negative (t.whole ++ t.pointed) = some (round w negative |t.value|) := by
  -- No word for a number that is not finite has digits or points only.
  have letter : 'n' ∉ asciiLower (t.whole ++ t.pointed) := by
    intro member
    obtain ⟨c, inside, lowered⟩ := List.mem_map.mp member
    rcases Plain.digit_or_point c inside with digit | rfl
    · rw [toLower_of_digit digit] at lowered
      rw [lowered] at digit
      cases digit
    · cases lowered
  have word {name : List Char} (contained : 'n' ∈ name) :
      asciiLower (t.whole ++ t.pointed) ≠ name :=
    fun same => letter (same ▸ contained)
  unfold readUnsigned?
  rw [if_neg (not_or.mpr ⟨word (by decide), word (by decide)⟩), if_neg (word (by decide))]
  exact readMagnitude?_plain negative

theorem read?_plain : read? w t.chars = some (round w t.negative |t.value|) := by
  rw [Plain.chars, Plain.signChars, Plain.negative]
  cases t.minus with
  | none =>
    rw [List.nil_append, ← readUnsigned?_plain]
    obtain ⟨c, cs, parts⟩ := List.exists_cons_of_ne_nil (Plain.whole_pointed_ne_nil (t := t))
    have kind : c.isDigit ∨ c = '.' := Plain.digit_or_point c (parts ▸ List.mem_cons_self)
    rw [parts]
    unfold read?
    split
    · next same =>
      cases same
      exact absurd kind (by decide)
    · next same =>
      cases same
      exact absurd kind (by decide)
    · rfl
  | some minus => cases minus <;> exact readUnsigned?_plain _

end Plain

end Binary

theorem orError_eq_some_iff {α : Type} {error : ValueError} {o : Option α} {a : α} :
    orError error o = .ok (some a) ↔ o = some a := by
  cases o with
  | none => constructor <;> intro same <;> cases same
  | some b => exact ⟨fun same => Except.ok.inj same, fun same => congrArg Except.ok same⟩

namespace Value

/-- The doubles that values stand for. Numbers are rounded once, texts are read, and doubles stay as
they are. -/
inductive IsDouble : Value → Double → Prop
  | int {n : Int32} {x : Double} (rounds : x.Rounds (n.toInt < 0) |(n.toInt : ℚ)|) :
    IsDouble (int n) x
  | long {n : Int64} {x : Double} (rounds : x.Rounds (n.toInt < 0) |(n.toInt : ℚ)|) :
    IsDouble (long n) x
  | float {y : Single} {x : Double} (becomes : y.Becomes x) : IsDouble (float y) x
  | double (x : Double) : IsDouble (double x) x
  | decimal (d : Decimal) : IsDouble (decimal d) d.toDouble
  | string {s : String} {x : Double} (read : Binary.read? .double (trim s.toList) = some x) :
      IsDouble (string s) x

/-- Floats stay as they are, and other values become the float of their double. -/
inductive IsFloat : Value → Single → Prop
  | float (y : Single) : IsFloat (float y) y
  | narrowed {v : Value} {x : Double} {y : Single} (other : v.kind ≠ .float) (wide : v.IsDouble x)
      (becomes : x.Becomes y) : IsFloat v y

variable {v : Value} {x : Double} {y : Single}

theorem toDouble_eq_some_iff : v.toDouble = .ok (some x) ↔ v.IsDouble x := by
  constructor
  · intro coerced
    cases v with
    | int n =>
      cases coerced
      exact .int (Binary.rounds_ofInt_iff.mpr rfl)
    | long n =>
      cases coerced
      exact .long (Binary.rounds_ofInt_iff.mpr rfl)
    | float y =>
      cases coerced
      exact .float (Binary.becomes_iff.mpr rfl)
    | double x =>
      cases coerced
      exact .double x
    | decimal d =>
      cases coerced
      exact .decimal d
    | string s =>
      exact .string (orError_eq_some_iff.mp coerced)
    | _ => cases coerced
  · intro stands
    cases stands with
    | int rounds | long rounds => rw [toDouble, Binary.rounds_ofInt_iff.mp rounds]
    | float becomes => rw [toDouble, Binary.becomes_iff.mp becomes]
    | double | decimal => rfl
    | string read => exact orError_eq_some_iff.mpr read

theorem toFloat_eq_some_iff : v.toFloat = .ok (some y) ↔ v.IsFloat y := by
  by_cases float : v.kind = .float
  · cases v with
    | float z =>
      constructor
      · intro coerced
        cases coerced
        exact .float y
      · intro stands
        cases stands with
        | float => rfl
        | narrowed other => exact absurd rfl other
    | _ => cases float
  · have narrowed : v.toFloat = v.toDouble.map (·.map (·.convert .single)) := by
      cases v with
      | float => exact absurd rfl float
      | _ => rfl
    rw [narrowed, map_eq_ok_iff_exists]
    constructor
    · rintro ⟨result, wide, same⟩
      obtain ⟨x, rfl, rfl⟩ := Option.map_eq_some_iff.mp same.symm
      exact .narrowed float (toDouble_eq_some_iff.mp wide) (Binary.becomes_iff.mpr rfl)
    · intro stands
      cases stands with
      | float => exact absurd rfl float
      | @narrowed _ x _ _ wide becomes =>
        rw [Binary.becomes_iff.mp becomes]
        exact ⟨some x, toDouble_eq_some_iff.mpr wide, rfl⟩

theorem isDouble_plain (t : Plain) :
    (string t.text).IsDouble x ↔ x.Rounds t.negative |t.value| := by
  have trimmed : trim t.text.toList = t.chars := by
    rw [Plain.text, String.toList_ofList, trim_visible Plain.visible_chars]
  rw [Binary.rounds_iff (abs_nonneg _)]
  constructor
  · intro stands
    cases stands with
    | string read =>
      rw [trimmed, Binary.read?_plain] at read
      exact (Option.some.inj read).symm
  · rintro rfl
    exact .string (by rw [trimmed, Binary.read?_plain])

/-- A decimal of up to fifteen digits stands for the double that it is rounded to. -/
theorem isDouble_decimal {d : Decimal} (present : d.coefficient ≠ 0)
    (small : d.coefficient < 2 ^ 50) (few : d.scale ≤ 22) :
    (decimal d).IsDouble x ↔ x.Rounds d.negative |d.toRat| := by
  have magnitude : |d.toRat| = d.coefficient / 10 ^ d.scale := by
    rw [d.toRat_eq, abs_signed, abs_of_nonneg (by positivity)]
  rw [Binary.rounds_iff (abs_nonneg _), magnitude, ← Decimal.toDouble_eq present small few]
  constructor
  · intro stands
    cases stands
    rfl
  · rintro rfl
    exact .decimal d

end Value

/-- The type by which a value in a record or in a list would become the same as in the column. -/
def Primitive.declared? (mode : DecimalMode) (format : Option String) : Primitive → Option DataType
  | .boolean => some .boolean
  | .tinyint | .smallint | .int => some .int
  | .bigint => some .long
  | .float => some .float
  | .double => some .double
  | .string | .varchar _ | .char _ => some .string
  | .date => some (.date format)
  | .decimal _ _ =>
    match mode with
    | .double => some .double
    | .exact => none
  | .binary | .timestamp | .void | .timestampLocal | .intervalYearMonth | .intervalDayTime => none

namespace Session

variable {s : Session} {r : Record} {field : Field DataType} {name : String} {v : Value}

theorem accessCell_eq_ok_iff {α : Type} {coerce : Value → Coerced α} {make : α → Cell} {a : α}
    (found : r.get? name = some v) (apart : ∀ {b}, make b = make a → b = a)
    (present : make a ≠ .absent) :
    accessCell r name coerce make = .ok (make a) ↔ coerce v = .ok (some a) := by
  rw [accessCell, Record.access, found]
  dsimp only
  cases coerce v with
  | error cause => constructor <;> intro same <;> cases same
  | ok result =>
    cases result with
    | none =>
      constructor
      · exact fun same => absurd (Except.ok.inj same).symm present
      · intro same
        cases same
    | some b =>
      constructor
      · exact fun same => congrArg (Except.ok ∘ some) (apart (Except.ok.inj same))
      · rintro ⟨⟩
        rfl

theorem accessCell_declared {α : Type} {coerce : Value → Coerced α} {make : α → Cell}
    (found : r.get? name = some v) :
    accessCell r name coerce make =
      (Cell.ofCoerced make (coerce v)).mapError fun cause => .access ⟨name, cause⟩ := by
  rw [accessCell, Record.access, found]
  dsimp only
  cases coerce v <;> rfl

/-- A field is converted for its column as the same value is inside a list or a record. -/
theorem convertField_declared {p : Primitive} {type : DataType} (found : r.get? field.name = some v)
    (declared : p.declared? s.decimalMode field.type.format = some type) :
    s.convertField r field (.primitive p) =
      (Cell.ofTyped v type).mapError fun cause => .access ⟨field.name, cause⟩ := by
  cases p with
  | decimal precision scale =>
    rw [convertField]
    cases mode : s.decimalMode with
    | double =>
      rw [mode] at declared
      cases declared
      exact accessCell_declared found
    | exact =>
      rw [mode] at declared
      cases declared
  | binary | timestamp | void | timestampLocal | intervalYearMonth | intervalDayTime =>
    cases declared
  | _ =>
    cases declared
    exact accessCell_declared found

theorem convertField_double_iff {x : Double} (found : r.get? field.name = some v) :
    s.convertField r field (.primitive .double) = .ok (.double x) ↔ v.IsDouble x := by
  rw [← Value.toDouble_eq_some_iff]
  exact accessCell_eq_ok_iff found Cell.double.inj (by simp)

theorem convertField_decimal_iff {x : Double} {precision scale : ℕ} (mode : s.decimalMode = .double)
    (found : r.get? field.name = some v) :
    s.convertField r field (.primitive (.decimal precision scale)) = .ok (.double x) ↔
      v.IsDouble x := by
  rw [← Value.toDouble_eq_some_iff]
  simp only [convertField, mode]
  exact accessCell_eq_ok_iff found Cell.double.inj (by simp)

theorem convertField_float_iff {y : Single} (found : r.get? field.name = some v) :
    s.convertField r field (.primitive .float) = .ok (.float y) ↔ v.IsFloat y := by
  rw [← Value.toFloat_eq_some_iff]
  exact accessCell_eq_ok_iff found Cell.float.inj (by simp)

theorem toLong_eq_some_iff {n : Int64} (number : v.IsNumber) :
    v.toLong = .ok (some n) ↔ v.whole? = some n.toInt := by
  obtain ⟨text, narrowed⟩ := Value.toLong_number number
  rw [narrowed, orError_eq_some_iff, Option.bind_eq_some_iff]
  simp only [int64?_eq_some_iff, exists_eq_right]

theorem toInt_eq_some_iff {n : Int32} (number : v.IsNumber) :
    v.toInt = .ok (some n) ↔ v.whole? = some n.toInt := by
  constructor
  · intro coerced
    rw [Value.toInt] at coerced
    cases long : v.toLong with
    | error cause =>
      rw [long] at coerced
      cases coerced
    | ok result =>
      cases result with
      | none =>
        rw [long] at coerced
        cases coerced
      | some m =>
        rw [long] at coerced
        have same := int32?_eq_some_iff.mp (orError_eq_some_iff.mp coerced)
        rw [← same, (toLong_eq_some_iff number).mp long]
  · intro whole
    apply Value.toInt_of_toLong
    rw [toLong_eq_some_iff number, toInt_ofInt_toInt, whole]

theorem convertField_bigint_iff {n : Int64} (found : r.get? field.name = some v)
    (number : v.IsNumber) :
    s.convertField r field (.primitive .bigint) = .ok (.long n) ↔ v.whole? = some n.toInt := by
  rw [← toLong_eq_some_iff number]
  exact accessCell_eq_ok_iff found Cell.long.inj (by simp)

theorem convertField_int_iff {n : Int32} {p : Primitive}
    (integral : p ∈ [.tinyint, .smallint, .int]) (found : r.get? field.name = some v)
    (number : v.IsNumber) :
    s.convertField r field (.primitive p) = .ok (.int n) ↔ v.whole? = some n.toInt := by
  rw [← toInt_eq_some_iff number]
  have cell : s.convertField r field (.primitive p) = accessCell r field.name Value.toInt .int := by
    simp only [List.mem_cons, List.not_mem_nil, or_false] at integral
    rcases integral with rfl | rfl | rfl <;> rfl
  rw [cell]
  exact accessCell_eq_ok_iff found Cell.int.inj (by simp)

end Session

end RecordRows
