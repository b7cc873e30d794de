import Mathlib.Algebra.Order.Field.Power
import Mathlib.Order.Monotone.Odd
import RecordRows.Binary.Basic
import RecordRows.Proofs.Decimal.Rounding
/-! Binary numbers are ordered as their bits are, and rounding leaves the numbers of a width as they
are. -/

namespace RecordRows

theorem scaleByTwo_eq (mantissa : ℕ) (exponent : ℤ) :
    scaleByTwo mantissa exponent = mantissa * 2 ^ exponent := by
  rw [scaleByTwo]
  split
  · next nonneg =>
    obtain ⟨n, rfl⟩ := Int.eq_ofNat_of_zero_le nonneg
    simp [Nat.shiftLeft_eq]
  · next negative =>
    obtain ⟨n, rfl⟩ : ∃ n : ℕ, exponent = -n := ⟨(-exponent).toNat, by omega⟩
    rw [Rat.mkRat_eq_div, zpow_neg, ← div_eq_mul_inv]
    simp [Nat.shiftLeft_eq]

theorem roundHalfEven_natCast (n : ℕ) : roundHalfEven n = n := by
  have whole : (n : ℚ).floor = n := by exact_mod_cast Rat.floor_intCast n
  simp [roundHalfEven, whole]

theorem two_zpow_add (a b : ℤ) : (2 : ℚ) ^ (a + b) = 2 ^ a * 2 ^ b := zpow_add₀ two_ne_zero a b

theorem two_zpow_lt_iff {a b : ℤ} : (2 : ℚ) ^ a < 2 ^ b ↔ a < b :=
  zpow_lt_zpow_iff_right₀ one_lt_two

theorem two_zpow_le_iff {a b : ℤ} : (2 : ℚ) ^ a ≤ 2 ^ b ↔ a ≤ b :=
  zpow_le_zpow_iff_right₀ one_lt_two

theorem log2_bounds {n : ℕ} (present : n ≠ 0) :
    (2 : ℚ) ^ (n.log2 : ℤ) ≤ n ∧ (n : ℚ) < 2 ^ ((n.log2 : ℤ) + 1) := by
  have low : 2 ^ n.log2 ≤ n := Nat.log2_self_le present
  have high : n < 2 ^ (n.log2 + 1) := Nat.lt_log2_self
  constructor
  · rw [zpow_natCast]
    exact_mod_cast low
  · rw [← Nat.cast_succ, zpow_natCast]
    exact_mod_cast high

namespace Binary

theorem floorLog2_spec {x : ℚ} (positive : 0 < x) :
    (2 : ℚ) ^ floorLog2 x ≤ x ∧ x < 2 ^ (floorLog2 x + 1) := by
  have above := Rat.num_pos.mpr positive
  have quotient : x.num.natAbs / (x.den : ℚ) = x := by
    have same : (x.num.natAbs : ℚ) = x.num := by rw [Nat.cast_natAbs, abs_of_pos above]
    rw [same, Rat.num_div_den]
  obtain ⟨numLow, numHigh⟩ := log2_bounds (n := x.num.natAbs) (by omega)
  obtain ⟨denLow, denHigh⟩ := log2_bounds x.den_nz
  have divisor : (0 : ℚ) < x.den := by exact_mod_cast x.den_pos
  have unit (e : ℤ) : (0 : ℚ) < 2 ^ e := zpow_pos two_pos e
  rw [floorLog2, scaleByTwo_eq, Nat.cast_one, one_mul]
  generalize (Nat.log2 x.num.natAbs : ℤ) = a at numLow numHigh
  generalize (Nat.log2 x.den : ℤ) = b at denLow denHigh
  -- The quotient of the two powers is off by less than a factor of two.
  have low : (2 : ℚ) ^ (a - b - 1) ≤ x := by
    rw [← quotient, le_div_iff₀ divisor]
    calc
      (2 : ℚ) ^ (a - b - 1) * x.den ≤ 2 ^ (a - b - 1) * 2 ^ (b + 1) :=
        mul_le_mul_of_nonneg_left denHigh.le (unit _).le
      _ = 2 ^ a := by rw [← two_zpow_add]; congr 1; omega
      _ ≤ x.num.natAbs := numLow
  have high : x < 2 ^ (a - b + 1) := by
    rw [← quotient, div_lt_iff₀ divisor]
    calc
      (x.num.natAbs : ℚ) < 2 ^ (a + 1) := numHigh
      _ = 2 ^ (a - b + 1) * 2 ^ b := by rw [← two_zpow_add]; congr 1; omega
      _ ≤ 2 ^ (a - b + 1) * x.den := mul_le_mul_of_nonneg_left denLow (unit _).le
  by_cases below : x < 2 ^ (a - b)
  · rw [if_pos below, sub_add_cancel]
    exact ⟨low, below⟩
  · rw [if_neg below]
    exact ⟨not_lt.mp below, high⟩

variable {w : Width}

def placeOf (w : Width) (m : ℕ) : ℕ := m / 2 ^ w.fractionBits - 1

def unitsOf (w : Width) (m : ℕ) : ℕ := m - placeOf w m * 2 ^ w.fractionBits

/-- The number that a magnitude stands for. -/
def worth (w : Width) (m : ℕ) : ℚ := unitsOf w m * 2 ^ (w.minExponent + placeOf w m)

/-- Only the numbers of the smallest place have less than a full mantissa. -/
structure OfPlace (w : Width) (place units : ℕ) : Prop where
  few : units < 2 * 2 ^ w.fractionBits
  full : place = 0 ∨ 2 ^ w.fractionBits ≤ units

theorem parts_of_ofPlace {place units : ℕ} (normal : OfPlace w place units) :
    placeOf w (place * 2 ^ w.fractionBits + units) = place ∧
      unitsOf w (place * 2 ^ w.fractionBits + units) = units := by
  obtain ⟨few, full⟩ := normal
  have positive : 0 < 2 ^ w.fractionBits := by positivity
  have same : placeOf w (place * 2 ^ w.fractionBits + units) = place := by
    rw [placeOf, Nat.add_comm, Nat.add_mul_div_right _ _ positive]
    by_cases small : units < 2 ^ w.fractionBits
    · rw [Nat.div_eq_of_lt small]
      omega
    · have one : units / 2 ^ w.fractionBits = 1 := by
        rw [Nat.div_eq_iff positive]
        omega
      rw [one]
      omega
  exact ⟨same, by rw [unitsOf, same, Nat.add_sub_cancel_left]⟩

theorem worth_of_ofPlace {place units : ℕ} (normal : OfPlace w place units) :
    worth w (place * 2 ^ w.fractionBits + units) = units * 2 ^ (w.minExponent + place) := by
  rw [worth, (parts_of_ofPlace normal).1, (parts_of_ofPlace normal).2]

theorem ofPlace_parts (w : Width) (m : ℕ) :
    OfPlace w (placeOf w m) (unitsOf w m) ∧ placeOf w m * 2 ^ w.fractionBits + unitsOf w m = m := by
  have positive : 0 < 2 ^ w.fractionBits := by positivity
  by_cases small : m < 2 ^ w.fractionBits
  · have lowest : placeOf w m = 0 := by rw [placeOf, Nat.div_eq_of_lt small]
    rw [unitsOf, lowest, Nat.zero_mul, Nat.sub_zero, Nat.zero_add]
    exact ⟨⟨by omega, .inl rfl⟩, rfl⟩
  · have quotient : m / 2 ^ w.fractionBits = placeOf w m + 1 := by
      have one := (Nat.one_le_div_iff positive).mpr (Nat.le_of_not_lt small)
      rw [placeOf]
      omega
    have division := Nat.div_add_mod' m (2 ^ w.fractionBits)
    have rest := Nat.mod_lt m positive
    rw [quotient, Nat.succ_mul] at division
    rw [unitsOf]
    exact ⟨⟨by omega, .inr (by omega)⟩, by omega⟩

theorem worth_succ (w : Width) (m : ℕ) :
    worth w (m + 1) = (unitsOf w m + 1) * 2 ^ (w.minExponent + placeOf w m) := by
  obtain ⟨⟨few, full⟩, parts⟩ := ofPlace_parts w m
  generalize placeOf w m = place at few full parts ⊢
  generalize unitsOf w m = units at few full parts ⊢
  by_cases last : units + 1 < 2 * 2 ^ w.fractionBits
  · have normal : OfPlace w place (units + 1) := ⟨last, full.imp_right fun low => by omega⟩
    rw [← parts, Nat.add_assoc, worth_of_ofPlace normal, Nat.cast_succ]
  · have normal : OfPlace w (place + 1) (2 ^ w.fractionBits) := ⟨by omega, .inr (le_refl _)⟩
    have next : m + 1 = (place + 1) * 2 ^ w.fractionBits + 2 ^ w.fractionBits := by
      rw [Nat.succ_mul]
      omega
    have whole : (units : ℚ) + 1 = 2 ^ w.fractionBits * 2 := by
      have same : units + 1 = 2 ^ w.fractionBits * 2 := by omega
      exact_mod_cast same
    rw [next, worth_of_ofPlace normal, whole, Nat.cast_succ, ← add_assoc, two_zpow_add _ 1]
    push_cast
    ring

theorem worth_strictMono (w : Width) : StrictMono (worth w) := by
  apply strictMono_nat_of_lt_succ
  intro m
  rw [worth_succ, worth]
  have unit : (0 : ℚ) < 2 ^ (w.minExponent + placeOf w m) := zpow_pos two_pos _
  exact mul_lt_mul_of_pos_right (lt_add_one _) unit

theorem worth_zero (w : Width) : worth w 0 = 0 := by simp [worth, unitsOf]

theorem worth_nonneg (w : Width) (m : ℕ) : 0 ≤ worth w m :=
  worth_zero w ▸ (worth_strictMono w).monotone (Nat.zero_le m)

def topExponent (w : Width) : ℤ := w.minExponent + (2 ^ w.exponentBits - 2) + w.fractionBits

theorem worth_infinity (w : Width) : worth w w.infinity = 2 ^ topExponent w := by
  have field : 2 ≤ 2 ^ w.exponentBits := by cases w <;> decide
  have normal : OfPlace w (2 ^ w.exponentBits - 2) (2 ^ w.fractionBits) :=
    ⟨by have : 0 < 2 ^ w.fractionBits := by positivity
        omega, .inr (le_refl _)⟩
  have parts : w.infinity = (2 ^ w.exponentBits - 2) * 2 ^ w.fractionBits + 2 ^ w.fractionBits := by
    rw [Width.infinity, Nat.shiftLeft_eq, Nat.shiftLeft_eq, one_mul, ← Nat.succ_mul]
    congr 1
    omega
  rw [parts, worth_of_ofPlace normal, topExponent, two_zpow_add _ (w.fractionBits : ℤ),
    zpow_natCast, Nat.cast_sub field]
  push_cast
  ring

section Fields

variable {m : ℕ}

theorem infinity_lt (w : Width) : w.infinity < 2 ^ (w.bits - 1) := by cases w <;> decide

theorem two_pow_bits (w : Width) : 2 ^ w.bits = 2 ^ (w.bits - 1) + 2 ^ (w.bits - 1) := by
  cases w <;> rfl

theorem magnitude_ofFields (negative : Bool) (small : m < 2 ^ (w.bits - 1)) :
    (ofFields w negative m).magnitude = m := by
  rw [magnitude, ofFields, BitVec.toNat_setWidth, BitVec.toNat_ofNat,
    Nat.mod_mod_of_dvd _ (pow_dvd_pow 2 (Nat.sub_le _ _)), Nat.one_shiftLeft]
  cases negative with
  | true => rw [if_pos rfl, Nat.add_mod_left, Nat.mod_eq_of_lt small]
  | false => rw [if_neg Bool.false_ne_true, Nat.zero_add, Nat.mod_eq_of_lt small]

theorem negative_ofFields (negative : Bool) (small : m < 2 ^ (w.bits - 1)) :
    (ofFields w negative m).negative = negative := by
  have double := two_pow_bits w
  rw [Binary.negative, ofFields, BitVec.msb_eq_decide, BitVec.toNat_ofNat, Nat.one_shiftLeft]
  cases negative with
  | true =>
    rw [if_pos rfl, Nat.mod_eq_of_lt (by omega), decide_eq_true_eq]
    omega
  | false =>
    rw [if_neg Bool.false_ne_true, Nat.mod_eq_of_lt (by omega), decide_eq_false_iff_not]
    omega

end Fields

theorem fraction_eq (x : Binary w) : x.fraction = x.magnitude % 2 ^ w.fractionBits := by
  have fits : w.fractionBits ≤ w.bits - 1 := by cases w <;> decide
  rw [fraction, magnitude, BitVec.toNat_setWidth, BitVec.toNat_setWidth,
    Nat.mod_mod_of_dvd _ (pow_dvd_pow 2 fits)]

theorem exponentField_eq (x : Binary w) : x.exponentField = x.magnitude / 2 ^ w.fractionBits := by
  rw [exponentField, Nat.shiftRight_eq_div_pow]

theorem mantissa_eq (x : Binary w) : x.mantissa = unitsOf w x.magnitude := by
  have division := Nat.div_add_mod' x.magnitude (2 ^ w.fractionBits)
  rw [mantissa, unitsOf, placeOf, fraction_eq, exponentField_eq, Nat.one_shiftLeft]
  cases quotient : x.magnitude / 2 ^ w.fractionBits with
  | zero =>
    rw [quotient, Nat.zero_mul, Nat.zero_add] at division
    rw [if_pos rfl, Nat.zero_sub, Nat.zero_mul, Nat.sub_zero, division]
  | succ place =>
    rw [quotient, Nat.succ_mul] at division
    rw [if_neg (Nat.succ_ne_zero place), Nat.add_sub_cancel]
    omega

theorem absolute_eq (x : Binary w) : x.absolute = worth w x.magnitude := by
  rw [absolute, scaleByTwo_eq, mantissa_eq, exponent, exponentField_eq, worth, placeOf]

theorem toRat?_eq (x : Binary w) :
    x.toRat? = if x.isFinite then some (signed x.negative (worth w x.magnitude)) else none := by
  rw [toRat?, absolute_eq, signed]

def valueAt (w : Width) (place : ℤ) : ℚ := signed (place < 0) (worth w place.natAbs)

theorem valueAt_lt_iff {place other : ℤ} : valueAt w place < valueAt w other ↔ place < other := by
  have increasing : StrictMono (valueAt w) := by
    apply strictMono_of_odd_strictMonoOn_nonneg
    · intro place
      rcases lt_trichotomy place 0 with below | rfl | above
      · simp [valueAt, signed, below, below.le]
      · simp [valueAt, signed, worth_zero]
      · simp [valueAt, signed, above, above.le]
    · intro place first other second less
      rw [Set.mem_Ici] at first second
      have order : place.natAbs < other.natAbs := by omega
      simpa [valueAt, signed, not_lt.mpr first, not_lt.mpr second] using worth_strictMono w order
  exact increasing.lt_iff_lt

theorem valueAt_le_iff {place other : ℤ} : valueAt w place ≤ valueAt w other ↔ place ≤ other := by
  rw [← not_lt, valueAt_lt_iff, not_lt]

theorem valueAt_order (x : Binary w) :
    valueAt w x.order = signed x.negative (worth w x.magnitude) := by
  rw [valueAt, order]
  cases x.negative with
  | true =>
    rcases Nat.eq_zero_or_pos x.magnitude with zero | positive
    · simp [zero, signed, worth_zero]
    · simp [signed, positive]
  | false => simp [signed]

theorem toRat?_eq_some_iff {x : Binary w} {a : ℚ} :
    x.toRat? = some a ↔ x.isFinite ∧ valueAt w x.order = a := by
  rw [toRat?_eq, valueAt_order, Option.ite_none_right_eq_some, Option.some.injEq]

theorem isNaN_of_isFinite {x : Binary w} (finite : x.isFinite) : x.isNaN = false := by
  rw [isFinite, decide_eq_true_eq] at finite
  rw [isNaN, decide_eq_false_iff_not]
  omega

theorem lt_iff {x y : Binary w} {a b : ℚ} (first : x.toRat? = some a) (second : y.toRat? = some b) :
    x.lt y ↔ a < b := by
  obtain ⟨finite, rfl⟩ := toRat?_eq_some_iff.mp first
  obtain ⟨other, rfl⟩ := toRat?_eq_some_iff.mp second
  simp [lt, isNaN_of_isFinite finite, isNaN_of_isFinite other, valueAt_lt_iff]

theorem le_iff {x y : Binary w} {a b : ℚ} (first : x.toRat? = some a) (second : y.toRat? = some b) :
    x.le y ↔ a ≤ b := by
  obtain ⟨finite, rfl⟩ := toRat?_eq_some_iff.mp first
  obtain ⟨other, rfl⟩ := toRat?_eq_some_iff.mp second
  simp [le, isNaN_of_isFinite finite, isNaN_of_isFinite other, valueAt_le_iff]

/-- The numbers without a sign that a width has room for. -/
structure Representable (w : Width) (q : ℚ) : Prop where
  small : q < 2 ^ topExponent w
  parts : ∃ (units : ℕ) (exponent : ℤ), units < 2 * 2 ^ w.fractionBits ∧ w.minExponent ≤ exponent ∧
    q = units * 2 ^ exponent

theorem Representable.exists_units {q : ℚ} (representable : Representable w q) (positive : 0 < q) :
    ∃ units : ℕ, q = units * 2 ^ max w.minExponent (floorLog2 q - w.fractionBits) := by
  obtain ⟨-, units, exponent, few, low, parts⟩ := representable
  have place : max w.minExponent (floorLog2 q - w.fractionBits) ≤ exponent := by
    apply max_le low
    have bound : (2 : ℚ) ^ floorLog2 q < 2 ^ (w.fractionBits + 1 + exponent : ℤ) := by
      have full : (units : ℚ) < 2 ^ (w.fractionBits + 1 : ℤ) := by
        rw [← Nat.cast_succ, zpow_natCast, pow_succ']
        exact_mod_cast few
      calc
        (2 : ℚ) ^ floorLog2 q ≤ q := (floorLog2_spec positive).1
        _ = units * 2 ^ exponent := parts
        _ < 2 ^ (w.fractionBits + 1 : ℤ) * 2 ^ exponent :=
          mul_lt_mul_of_pos_right full (zpow_pos two_pos _)
        _ = 2 ^ (w.fractionBits + 1 + exponent : ℤ) := (two_zpow_add _ _).symm
    have less := two_zpow_lt_iff.mp bound
    omega
  generalize max w.minExponent (floorLog2 q - w.fractionBits) = least at place
  obtain ⟨n, rfl⟩ := Int.le.dest place
  refine ⟨units * 2 ^ n, ?_⟩
  rw [parts, two_zpow_add, zpow_natCast]
  push_cast
  ring

theorem lt_of_mul_zpow_lt {units : ℕ} {a b : ℤ} {n : ℕ} (less : (units : ℚ) * 2 ^ a < 2 ^ b)
    (order : b ≤ a + n) : units < 2 ^ n := by
  have unit : (0 : ℚ) < 2 ^ a := zpow_pos two_pos a
  have bound : (units : ℚ) * 2 ^ a < 2 ^ n * 2 ^ a := by
    calc
      (units : ℚ) * 2 ^ a < 2 ^ b := less
      _ ≤ 2 ^ (a + n) := two_zpow_le_iff.mpr order
      _ = 2 ^ n * 2 ^ a := by rw [two_zpow_add, zpow_natCast, mul_comm]
  exact_mod_cast lt_of_mul_lt_mul_right bound unit.le

theorem ofPlace_floorLog2 {q : ℚ} (positive : 0 < q) {place units : ℕ}
    (least : max w.minExponent (floorLog2 q - w.fractionBits) = w.minExponent + place)
    (parts : q = units * 2 ^ (w.minExponent + place : ℤ)) : OfPlace w place units := by
  obtain ⟨low, high⟩ := floorLog2_spec positive
  constructor
  · have less : (units : ℚ) * 2 ^ (w.minExponent + place : ℤ) < 2 ^ (floorLog2 q + 1) := by
      rw [← parts]
      exact high
    rw [← pow_succ']
    apply lt_of_mul_zpow_lt less
    push_cast
    omega
  · by_contra short
    rw [not_or, not_le] at short
    obtain ⟨above, few⟩ := short
    have same : (w.minExponent + place : ℤ) = floorLog2 q - w.fractionBits := by omega
    have unit : (0 : ℚ) < 2 ^ (w.minExponent + place : ℤ) := zpow_pos two_pos _
    have less : q < 2 ^ floorLog2 q := by
      calc
        q = units * 2 ^ (w.minExponent + place : ℤ) := parts
        _ < 2 ^ w.fractionBits * 2 ^ (w.minExponent + place : ℤ) := by
          apply mul_lt_mul_of_pos_right _ unit
          exact_mod_cast few
        _ = 2 ^ floorLog2 q := by
          rw [← zpow_natCast, ← two_zpow_add, same, add_sub_cancel]
    exact absurd low (not_le.mpr less)

theorem worth_roundMagnitude {q : ℚ} (representable : Representable w q) (nonneg : 0 ≤ q) :
    roundMagnitude w q < w.infinity ∧ worth w (roundMagnitude w q) = q := by
  rcases nonneg.eq_or_lt with rfl | positive
  · rw [roundMagnitude, if_pos rfl, worth_zero]
    exact ⟨by cases w <;> decide, rfl⟩
  obtain ⟨units, parts⟩ := representable.exists_units positive
  obtain ⟨place, least⟩ := Int.le.dest (le_max_left w.minExponent (floorLog2 q - w.fractionBits))
  rw [← least] at parts
  have quotient : q / 2 ^ (w.minExponent + place : ℤ) = units := by
    rw [parts, mul_div_cancel_right₀ _ (zpow_pos two_pos _).ne']
  have found : worth w (place * 2 ^ w.fractionBits + units) = q := by
    rw [worth_of_ofPlace (ofPlace_floorLog2 positive least.symm parts), parts]
  have inside : place * 2 ^ w.fractionBits + units < w.infinity := by
    rw [← (worth_strictMono w).lt_iff_lt, found, worth_infinity]
    exact representable.small
  have rounded : roundMagnitude w q = place * 2 ^ w.fractionBits + units := by
    simp only [roundMagnitude, if_neg positive.ne', scaleByTwo_eq, Nat.cast_one, one_mul, ← least,
      quotient, roundHalfEven_natCast, Int.toNat_natCast, add_sub_cancel_left, Nat.shiftLeft_eq]
    exact min_eq_right inside.le
  rw [rounded]
  exact ⟨inside, found⟩

theorem toRat?_round {q : ℚ} (representable : Representable w q) (nonneg : 0 ≤ q)
    (negative : Bool) : (round w negative q).toRat? = some (signed negative q) := by
  obtain ⟨inside, same⟩ := worth_roundMagnitude representable nonneg
  have small := inside.trans (infinity_lt w)
  have finite : (round w negative q).isFinite := by
    rw [isFinite, round, magnitude_ofFields negative small]
    exact decide_eq_true inside
  rw [toRat?_eq, if_pos finite, round, magnitude_ofFields negative small,
    negative_ofFields negative small, same]

theorem representable_worth {m : ℕ} (finite : m < w.infinity) : Representable w (worth w m) where
  small := worth_infinity w ▸ worth_strictMono w finite
  parts := by
    obtain ⟨⟨few, -⟩, -⟩ := ofPlace_parts w m
    exact ⟨unitsOf w m, w.minExponent + placeOf w m, few, by omega, rfl⟩

theorem Representable.widen {q : ℚ} (representable : Representable .single q) :
    Representable .double q := by
  obtain ⟨small, units, exponent, few, low, parts⟩ := representable
  constructor
  · exact small.trans (two_zpow_lt_iff.mpr (by decide))
  · exact ⟨units, exponent, few.trans (by decide), le_trans (by decide) low, parts⟩

theorem toRat?_convert (x : Single) : (x.convert .double).toRat? = x.toRat? := by
  by_cases finite : x.isFinite
  · have room := representable_worth (decide_eq_true_eq.mp finite)
    rw [convert, isNaN_of_isFinite finite, if_neg Bool.false_ne_true, if_pos finite, absolute_eq,
      toRat?_round room.widen (worth_nonneg _ _), toRat?_eq, if_pos finite]
  · rw [convert, if_neg finite, toRat?_eq x, if_neg finite]
    split
    · decide
    · cases x.negative <;> decide

theorem Representable.floor {q : ℚ} (representable : Representable w q) : Representable w ⌊q⌋ := by
  obtain ⟨small, units, exponent, few, low, parts⟩ := representable
  rcases le_or_gt 0 exponent with whole | fraction
  · obtain ⟨n, rfl⟩ := Int.eq_ofNat_of_zero_le whole
    have integral : q = (units * 2 ^ n : ℕ) := by
      rw [parts]
      push_cast
      rfl
    have same : (⌊q⌋ : ℚ) = q := by rw [integral, Int.floor_natCast, Int.cast_natCast]
    rw [same]
    exact ⟨small, units, n, few, low, parts⟩
  · obtain ⟨n, rfl⟩ : ∃ n : ℕ, exponent = -n := ⟨(-exponent).toNat, by omega⟩
    have cut : ⌊q⌋ = (units / 2 ^ n : ℕ) := by
      have quotient : q = ((units : ℤ) : ℚ) / (2 ^ n : ℕ) := by
        rw [parts, zpow_neg, ← div_eq_mul_inv]
        push_cast
        rfl
      rw [quotient, Rat.floor_intCast_div_natCast]
      rfl
    constructor
    · exact (Int.floor_le q).trans_lt small
    · refine ⟨units / 2 ^ n, 0, (Nat.div_le_self _ _).trans_lt few, by cases w <;> decide, ?_⟩
      rw [cut, zpow_zero, mul_one, Int.cast_natCast]

theorem toRat?_truncate {x : Binary w} (finite : x.isFinite) :
    x.truncate.toRat? = some (signed x.negative ⌊worth w x.magnitude⌋) := by
  have room := representable_worth (decide_eq_true_eq.mp finite)
  rw [truncate, if_pos finite, absolute_eq]
  apply toRat?_round room.floor
  exact_mod_cast Int.floor_nonneg.mpr (worth_nonneg w _)

end Binary

end RecordRows
