import RecordRows.Proofs.Binary.Exact
import RecordRows.Proofs.Value.Range
/-! Numbers are narrowed to integers exactly: toward zero within the range, and not at all
outside it. -/

namespace RecordRows

open Text

def towardZero (q : ℚ) : ℤ := if q < 0 then ⌈q⌉ else ⌊q⌋

theorem towardZero_neg (q : ℚ) : towardZero (-q) = -towardZero q := by
  rcases lt_trichotomy q 0 with below | rfl | above
  · rw [towardZero, towardZero, if_neg (by linarith), if_pos below, Int.floor_neg]
  · rfl
  · rw [towardZero, towardZero, if_pos (by linarith), if_neg (by linarith), Int.ceil_neg]

theorem towardZero_of_nonneg {q : ℚ} (nonneg : 0 ≤ q) : towardZero q = ⌊q⌋ := if_neg nonneg.not_gt

theorem towardZero_intCast (n : ℤ) : towardZero n = n := by
  rw [towardZero, Int.ceil_intCast, Int.floor_intCast, ite_self]

theorem towardZero_signed {q : ℚ} (nonneg : 0 ≤ q) (negative : Bool) :
    (towardZero (signed negative q) : ℚ) = signed negative ⌊q⌋ := by
  cases negative with
  | true =>
    rw [signed, signed, if_pos rfl, if_pos rfl, towardZero_neg, towardZero_of_nonneg nonneg,
      Int.cast_neg]
  | false =>
    rw [signed, signed, if_neg Bool.false_ne_true, if_neg Bool.false_ne_true,
      towardZero_of_nonneg nonneg]

theorem tdiv_num_den (q : ℚ) : q.num.tdiv q.den = towardZero q := by
  have whole {q : ℚ} (nonneg : 0 ≤ q) : q.num.tdiv q.den = towardZero q := by
    have floor : ⌊q⌋ = q.num / q.den := Rat.floor_def q
    rw [towardZero_of_nonneg nonneg, floor, Int.tdiv_eq_ediv_of_nonneg (Rat.num_nonneg.mpr nonneg)]
  rcases le_total 0 q with nonneg | nonpos
  · exact whole nonneg
  · have opposite := whole (neg_nonneg.mpr nonpos)
    rw [towardZero_neg, Rat.num_neg_eq_neg_num, Rat.den_neg_eq_den, Int.neg_tdiv] at opposite
    exact neg_inj.mp opposite

theorem Binary.truncate?_eq {w : Width} (x : Binary w) : x.truncate? = x.toRat?.map towardZero := by
  rw [truncate?]
  congr 1
  funext q
  exact tdiv_num_den q

theorem Decimal.truncate_eq (d : Decimal) : d.truncate = towardZero d.toRat := by
  have nonneg : (0 : ℚ) ≤ d.coefficient / 10 ^ d.scale := by positivity
  have whole : ⌊(d.coefficient : ℚ) / 10 ^ d.scale⌋ = (d.coefficient / placeValue d.scale : ℕ) := by
    rw [← cast_placeValue, ← Int.cast_natCast, Rat.floor_intCast_div_natCast]
    rfl
  rw [truncate, d.toRat_eq, signed]
  cases d.negative with
  | true => rw [if_pos rfl, if_pos rfl, towardZero_neg, towardZero_of_nonneg nonneg, whole]
  | false =>
    rw [if_neg Bool.false_ne_true, if_neg Bool.false_ne_true, towardZero_of_nonneg nonneg, whole]

theorem withinLong_iff {x : Double} {n : ℤ} (whole : x.toRat? = some (n : ℚ)) :
    withinLong x ↔ -9223372036854775808 ≤ n ∧ n ≤ 9223372036854775807 := by
  have least : (Binary.ofInt .double Int64.minValue.toInt).toRat? =
      some ((-9223372036854775808 : ℤ) : ℚ) := by decide +kernel
  -- The double nearest to the greatest long is the number past it.
  have past : (Binary.ofInt .double Int64.maxValue.toInt).toRat? =
      some ((9223372036854775807 + 1 : ℤ) : ℚ) := by decide +kernel
  have finite := (Binary.toRat?_eq_some_iff.mp whole).1
  rw [withinLong, finite, Bool.true_and, Bool.and_eq_true, Binary.le_iff least whole,
    Binary.lt_iff whole past, Int.cast_le, Int.cast_lt, Int.lt_add_one_iff]

theorem toInt64_eq {x : Double} {n : ℤ} (whole : x.toRat? = some (n : ℚ))
    (inside : -9223372036854775808 ≤ n ∧ n ≤ 9223372036854775807) : some x.toInt64 = int64? n := by
  -- Within the bounds of a long nothing is cut off.
  have cut : max Int64.minValue.toInt (min Int64.maxValue.toInt n) = n := by
    have least : Int64.minValue.toInt = -9223372036854775808 := rfl
    have greatest : Int64.maxValue.toInt = 9223372036854775807 := rfl
    omega
  have integer : x.truncate? = some n := by
    rw [Binary.truncate?_eq, whole, Option.map_some, towardZero_intCast]
  rw [int64?, if_pos inside, Binary.toInt64, integer]
  simp only [cut]

/-- The comparisons of doubles decide exactly whether the integer part is a long. -/
theorem doubleToLong_eq (x : Double) :
    doubleToLong x =
      orError (.outOfRange x.text .long) ((x.toRat?.map towardZero).bind int64?) := by
  rw [doubleToLong]
  congr 1
  by_cases finite : x.isFinite
  · have nonneg := Binary.worth_nonneg .double x.magnitude
    have read := Binary.toRat?_eq x
    have whole := Binary.toRat?_truncate finite
    rw [if_pos finite] at read
    rw [← towardZero_signed nonneg] at whole
    rw [read, Option.map_some, Option.bind_some]
    split
    · next inside => exact toInt64_eq whole ((withinLong_iff whole).mp inside)
    · next outside => exact (int64?_eq_none_iff.mpr (mt (withinLong_iff whole).mpr outside)).symm
  · have outside : withinLong x.truncate = false := by
      rw [Binary.truncate, if_neg finite, withinLong, Bool.eq_false_iff.mpr finite, Bool.false_and,
        Bool.false_and]
    rw [outside, Binary.toRat?_eq, if_neg finite]
    rfl

namespace Value

def IsNumber : Value → Prop
  | int _ | long _ | float _ | double _ | decimal _ => True
  | _ => False

/-- The number that a value is, unless it is infinite or no number at all. -/
def number? : Value → Option ℚ
  | int n => some n.toInt
  | long n => some n.toInt
  | float x => x.toRat?
  | double x => x.toRat?
  | decimal d => some d.toRat
  | _ => none

def whole? (v : Value) : Option ℤ := v.number?.map towardZero

theorem toLong_number {v : Value} (number : v.IsNumber) :
    ∃ text, v.toLong = orError (.outOfRange text .long) (v.whole?.bind int64?) := by
  cases v with
  | int n =>
    have wide : int64? n.toInt = some (Int64.ofInt n.toInt) :=
      int64?_eq_some_iff.mpr (toInt_ofInt_toInt n).symm
    refine ⟨"", ?_⟩
    rw [whole?, number?, Option.map_some, towardZero_intCast, Option.bind_some, wide]
    rfl
  | long n =>
    refine ⟨"", ?_⟩
    rw [whole?, number?, Option.map_some, towardZero_intCast, Option.bind_some, int64?_toInt]
    rfl
  | float x => exact ⟨_, by rw [toLong, doubleToLong_eq, Binary.toRat?_convert, whole?, number?]⟩
  | double x => exact ⟨_, doubleToLong_eq x⟩
  | decimal d =>
    refine ⟨d.text, ?_⟩
    rw [toLong, d.truncate_eq, whole?, number?, Option.map_some, Option.bind_some]
  | _ => exact number.elim

/-- A number whose integer part is in the range of a long is that long, and that integer where
it is in the range of one too. All other numbers are out of range, and so is what is infinite or
no number. -/
theorem narrowing_exact {v : Value} (number : v.IsNumber) :
    (∀ n, v.whole? = some n → -2 ^ 63 ≤ n ∧ n < 2 ^ 63 →
      (∃ m : Int64, m.toInt = n ∧ v.toLong = .ok (some m)) ∧
      (-2 ^ 31 ≤ n ∧ n < 2 ^ 31 → ∃ m : Int32, m.toInt = n ∧ v.toInt = .ok (some m)) ∧
      (¬ (-2 ^ 31 ≤ n ∧ n < 2 ^ 31) → ∃ text, v.toInt = .error (.outOfRange text .int))) ∧
    ((∀ n, v.whole? = some n → ¬ (-2 ^ 63 ≤ n ∧ n < 2 ^ 63)) →
      ∃ text, v.toLong = .error (.outOfRange text .long) ∧
        v.toInt = .error (.outOfRange text .long)) := by
  obtain ⟨text, narrowed⟩ := toLong_number number
  constructor
  · intro n whole inside
    obtain ⟨long, rfl⟩ := exists_int64 (n := n) (by omega) (by omega)
    have wide : v.toLong = .ok (some long) := by
      rw [narrowed, whole, Option.bind_some, int64?_toInt, orError]
    refine ⟨⟨long, rfl, wide⟩, ?_, ?_⟩
    · intro small
      obtain ⟨int, same⟩ := exists_int32 (n := long.toInt) (by omega) (by omega)
      refine ⟨int, same, ?_⟩
      simp only [toInt, wide, ← same, int32?_toInt, orError]
    · intro large
      have none : int32? long.toInt = none := int32?_eq_none_iff.mpr (by omega)
      exact ⟨intText long.toInt, by simp only [toInt, wide, none, orError]⟩
  · intro outside
    have none : v.whole?.bind int64? = none := by
      rw [Option.bind_eq_none_iff]
      intro n whole
      have missing := outside n whole
      exact int64?_eq_none_iff.mpr (by omega)
    have refused : v.toLong = .error (.outOfRange text .long) := by rw [narrowed, none, orError]
    exact ⟨text, refused, by simp only [toInt, refused]⟩

theorem narrowing_exact_edge :
    let last : Value := double ⟨0x43dfffffffffffff⟩
    let past : Value := double ⟨0x43e0000000000000⟩
    (last.IsNumber ∧ last.whole? = some (2 ^ 63 - 1024) ∧ past.IsNumber ∧
      past.whole? = some (2 ^ 63)) ∧
      (∃ m : Int64, m.toInt = 2 ^ 63 - 1024 ∧ last.toLong = .ok (some m)) ∧
      (∃ text, last.toInt = .error (.outOfRange text .int)) ∧
      ∃ text, past.toLong = .error (.outOfRange text .long) ∧
        past.toInt = .error (.outOfRange text .long) := by
  intro last past
  have below : last.whole? = some (2 ^ 63 - 1024) := by decide +kernel
  have bound : past.whole? = some (2 ^ 63) := by decide +kernel
  obtain ⟨long, -, int⟩ := (narrowing_exact (v := last) trivial).1 _ below (by decide)
  refine ⟨⟨trivial, below, trivial, bound⟩, long, int (by decide), ?_⟩
  apply (narrowing_exact (v := past) trivial).2
  intro n whole
  cases bound.symm.trans whole
  decide

end Value

end RecordRows
