import Mathlib.Algebra.Order.Round
import Mathlib.Data.Rat.Floor
import Mathlib.Data.Sign.Basic
import Mathlib.Tactic.FieldSimp
import Mathlib.Tactic.Linarith
import RecordRows.Proofs.Decimal.RoundTrip
/-! Rounding to decimal places, as a law of rational numbers, and the decimals that fit a column. A
number that is rounded twice may come out otherwise than rounded once. -/

namespace RecordRows

open Text

/-- The number rounded to so many places, a half away from zero. -/
def roundAway (places : ℕ) (x : ℚ) : ℚ := SignType.sign x * round (|x| * 10 ^ places) / 10 ^ places

/-- The number needs no more than so many places. -/
def HasPlaces (places : ℕ) (x : ℚ) : Prop := ∃ n : ℤ, x * 10 ^ places = n

/-- The number lies in the middle between two neighbours with so many places. -/
def Halfway (places : ℕ) (x : ℚ) : Prop := ∃ n : ℤ, x * 10 ^ places = n + 1 / 2

variable {places : ℕ} {x : ℚ}

theorem roundAway_neg (places : ℕ) (x : ℚ) : roundAway places (-x) = -roundAway places x := by
  simp only [roundAway, Left.sign_neg, abs_neg, SignType.coe_neg]
  ring

theorem roundAway_of_nonneg (nonneg : 0 ≤ x) :
    roundAway places x = round (x * 10 ^ places) / 10 ^ places := by
  rcases nonneg.eq_or_lt with rfl | positive
  · simp [roundAway]
  · simp [roundAway, sign_pos positive, abs_of_pos positive]

theorem halfway_neg : Halfway places (-x) ↔ Halfway places x := by
  constructor
  · rintro ⟨n, middle⟩
    refine ⟨-n - 1, ?_⟩
    push_cast
    linarith
  · rintro ⟨n, middle⟩
    refine ⟨-n - 1, ?_⟩
    push_cast
    linarith

theorem hasPlaces_div (n places : ℕ) : HasPlaces places (n / 10 ^ places) :=
  ⟨n, by rw [div_mul_cancel₀ _ (by positivity), Int.cast_natCast]⟩

theorem HasPlaces.mono {more : ℕ} (few : HasPlaces places x) (order : places ≤ more) :
    HasPlaces more x := by
  obtain ⟨n, units⟩ := few
  refine ⟨n * 10 ^ (more - places), ?_⟩
  calc
    x * 10 ^ more = x * 10 ^ places * 10 ^ (more - places) := by
      rw [mul_assoc, ← pow_add, Nat.add_sub_cancel' order]
    _ = (n * 10 ^ (more - places) : ℤ) := by
      rw [units]
      push_cast
      rfl

theorem HasPlaces.rounded (few : HasPlaces places x) : roundAway places x = x := by
  obtain ⟨n, units⟩ := few
  have scaled : |x| * 10 ^ places = |n| := by
    rw [Int.cast_abs, ← units, abs_mul, abs_of_pos (by positivity : (0 : ℚ) < 10 ^ places)]
  calc
    roundAway places x = SignType.sign x * (|x| * 10 ^ places) / 10 ^ places := by
      rw [roundAway, scaled, round_intCast]
    _ = SignType.sign x * |x| := by field_simp
    _ = x := sign_mul_abs x

theorem hasPlaces_roundAway (places : ℕ) (x : ℚ) : HasPlaces places (roundAway places x) := by
  have unit : (10 : ℚ) ^ places ≠ 0 := by positivity
  refine ⟨SignType.sign x * round (|x| * 10 ^ places), ?_⟩
  rw [roundAway, div_mul_cancel₀ _ unit]
  push_cast
  rfl

theorem cast_placeValue (places : ℕ) : (placeValue places : ℚ) = 10 ^ places := by
  rw [placeValue, Nat.pow_eq, Nat.cast_pow, Nat.cast_ofNat]

theorem placeValue_succ (places : ℕ) : placeValue (places + 1) = placeValue places * 10 := rfl

theorem placeValue_add (a b : ℕ) : placeValue (a + b) = placeValue a * placeValue b :=
  Nat.pow_add 10 a b

def roundOff (n dropped : ℕ) : ℕ := (n + placeValue dropped / 2) / placeValue dropped

theorem roundOff_zero (n : ℕ) : roundOff n 0 = n := Nat.div_one n

theorem roundOff_succ (n dropped : ℕ) :
    roundOff n (dropped + 1) = (n / placeValue dropped + 5) / 10 := by
  have positive : 0 < placeValue dropped := placeValue_pos dropped
  have half : placeValue dropped * 10 / 2 = 5 * placeValue dropped := by omega
  rw [roundOff, placeValue_succ, half, ← Nat.div_div_eq_div_mul, Nat.add_mul_div_right _ _ positive]

theorem div_le_roundOff (n dropped : ℕ) : n / placeValue dropped ≤ roundOff n dropped :=
  Nat.div_le_div_right (Nat.le_add_right _ _)

theorem roundOff_succ_le (n dropped : ℕ) : roundOff n (dropped + 1) ≤ roundOff n dropped := by
  have cut := div_le_roundOff n dropped
  rw [roundOff_succ]
  omega

theorem roundOff_antitone (n : ℕ) : Antitone (roundOff n) :=
  antitone_nat_of_succ_le (roundOff_succ_le n)

theorem round_div_even (m : ℚ) (half : ℕ) (positive : 0 < half) :
    round (m / (2 * half : ℕ)) = (⌊m⌋ + half) / (2 * half : ℕ) := by
  have nonzero : (half : ℚ) ≠ 0 := by positivity
  calc
    round (m / (2 * half : ℕ)) = ⌊(m + half) / (2 * half : ℕ)⌋ := by
      rw [round_eq]
      congr 1
      push_cast
      field_simp
    _ = (⌊m⌋ + half) / (2 * half : ℕ) := by rw [Int.floor_div_natCast, Int.floor_add_natCast]

theorem round_div_placeValue (n dropped : ℕ) :
    round ((n : ℚ) / 10 ^ dropped) = roundOff n dropped := by
  cases dropped with
  | zero => simp [roundOff_zero]
  | succ dropped =>
    have even : placeValue (dropped + 1) = 2 * (5 * placeValue dropped) := by
      rw [placeValue_succ]; omega
    have positive : 0 < 5 * placeValue dropped := by have := placeValue_pos dropped; omega
    rw [← cast_placeValue, even, round_div_even _ _ positive, Int.floor_natCast, roundOff, even]
    norm_cast
    congr 2
    omega

theorem div_mul_pow {kept : ℕ} (few : kept ≤ places) (n : ℕ) :
    (n / 10 ^ places : ℚ) * 10 ^ kept = n / 10 ^ (places - kept) := by
  have split : (10 : ℚ) ^ places = 10 ^ (places - kept) * 10 ^ kept := by
    rw [← pow_add, Nat.sub_add_cancel few]
  rw [split]
  field_simp

theorem roundAway_div {kept : ℕ} (few : kept ≤ places) (n : ℕ) :
    roundAway kept (n / 10 ^ places : ℚ) = roundOff n (places - kept) / 10 ^ kept := by
  rw [roundAway_of_nonneg (by positivity), div_mul_pow few, round_div_placeValue, Int.cast_natCast]

theorem ediv_succ_eq_iff {a b : ℤ} (positive : 0 < b) : (a + 1) / b = a / b ↔ ¬ b ∣ a + 1 := by
  have low : a / b * b ≤ a := Int.ediv_mul_le a positive.ne'
  have high : a < a / b * b + b := Int.lt_ediv_add_one_mul_self a positive |>.trans_eq (by ring)
  rw [Int.ediv_eq_iff_of_pos positive]
  constructor
  · rintro ⟨-, below⟩ ⟨k, multiple⟩
    have above : a / b < k := by
      apply lt_of_mul_lt_mul_right _ positive.le
      rw [mul_comm k, ← multiple]
      omega
    have under : k < a / b + 1 := by
      apply lt_of_mul_lt_mul_right _ positive.le
      rw [mul_comm k, ← multiple, add_one_mul]
      exact below
    omega
  · intro apart
    have other : a + 1 ≠ a / b * b + b := by
      intro same
      exact apart ⟨a / b + 1, by rw [same]; ring⟩
    omega

theorem middle_iff (units : ℤ) {half : ℕ} (positive : 0 < half) :
    (∃ n : ℤ, (units : ℚ) / (2 * half : ℕ) = n + 1 / 2) ↔ ((2 * half : ℕ) : ℤ) ∣ units + half := by
  have nonzero : (half : ℚ) ≠ 0 := by positivity
  have shifted (n : ℤ) : (units : ℚ) / (2 * half : ℕ) = n + 1 / 2 ↔
      units + half = (2 * half : ℕ) * (n + 1) := by
    rw [div_eq_iff (by positivity)]
    have cast : (units : ℚ) = (n + 1 / 2) * (2 * half : ℕ) ↔
        ((units + half : ℤ) : ℚ) = ((2 * half : ℕ) * (n + 1) : ℤ) := by
      push_cast
      constructor <;> intro same <;> linarith
    rw [cast, Int.cast_inj]
  constructor
  · rintro ⟨n, middle⟩
    exact ⟨n + 1, (shifted n).mp middle⟩
  · rintro ⟨n, multiple⟩
    exact ⟨n - 1, (shifted (n - 1)).mpr (by rw [multiple, sub_add_cancel])⟩

theorem round_twice_iff (units : ℚ) {half : ℕ} (positive : 0 < half) :
    round ((round units : ℚ) / (2 * half : ℕ)) = round (units / (2 * half : ℕ)) ↔
      ¬ ((∃ n : ℤ, (round units : ℚ) / (2 * half : ℕ) = n + 1 / 2) ∧ units < round units) := by
  have low : (⌊units⌋ : ℚ) ≤ units := Int.floor_le units
  have high : units < ⌊units⌋ + 1 := Int.lt_floor_add_one units
  have cases : round units = ⌊units⌋ ∨ round units = ⌊units⌋ + 1 := by
    have least : ⌊units⌋ ≤ round units := by
      rw [round_eq]
      exact Int.floor_mono (by linarith)
    have most : round units < ⌊units⌋ + 2 := by
      rw [round_eq, Int.floor_lt]
      push_cast
      linarith
    omega
  rw [middle_iff _ positive, round_div_even _ _ positive, round_div_even _ _ positive,
    Int.floor_intCast]
  -- Only going up to the next integer can reach the middle from below it.
  rcases cases with down | up
  · rw [down]
    have still : ¬ units < ⌊units⌋ := not_lt.mpr low
    simp [still]
  · have raised : units < ((⌊units⌋ + 1 : ℤ) : ℚ) := by
      push_cast
      exact high
    have next : ⌊units⌋ + 1 + half = ⌊units⌋ + half + 1 := by ring
    rw [up, next, ediv_succ_eq_iff (by positivity), and_iff_left raised]

theorem roundAway_nonneg (nonneg : 0 ≤ x) : 0 ≤ roundAway places x := by
  have units : 0 ≤ round (x * 10 ^ places) := by
    rw [round_eq]
    exact Int.floor_nonneg.mpr (by positivity)
  rw [roundAway_of_nonneg nonneg]
  positivity

/-- Rounding a second time to fewer places makes a difference only where the first rounding went up
into the middle between two neighbours. -/
theorem roundAway_twice_of_nonneg {coarse fine : ℕ} (order : coarse < fine) (nonneg : 0 ≤ x) :
    roundAway coarse (roundAway fine x) = roundAway coarse x ↔
      ¬ (Halfway coarse (roundAway fine x) ∧ x < roundAway fine x) := by
  obtain ⟨apart, rfl⟩ : ∃ apart, fine = coarse + (apart + 1) := ⟨fine - coarse - 1, by omega⟩
  obtain ⟨half, step, positive⟩ :
      ∃ half : ℕ, (10 : ℚ) ^ (apart + 1) = (2 * half : ℕ) ∧ 0 < half := by
    refine ⟨5 * 10 ^ apart, ?_, by positivity⟩
    push_cast
    ring
  -- In units of the fine places, rounding to the coarse ones divides by the even number `2 * half`.
  have nonzero : (half : ℚ) ≠ 0 := by positivity
  have unit : (0 : ℚ) < 10 ^ (coarse + (apart + 1)) := by positivity
  have first : roundAway (coarse + (apart + 1)) x =
      round (x * 10 ^ (coarse + (apart + 1))) / 10 ^ (coarse + (apart + 1)) :=
    roundAway_of_nonneg nonneg
  have stays : 0 ≤ roundAway (coarse + (apart + 1)) x := roundAway_nonneg nonneg
  generalize roundAway (coarse + (apart + 1)) x = y at first stays ⊢
  generalize scaled : x * 10 ^ (coarse + (apart + 1)) = units at first
  have before : x * 10 ^ coarse = units / (2 * half : ℕ) := by
    rw [← scaled, pow_add, step]
    field_simp
  have after : y * 10 ^ coarse = round units / (2 * half : ℕ) := by
    rw [first, pow_add, step]
    field_simp
  have raised : x < y ↔ units < round units := by rw [first, lt_div_iff₀ unit, scaled]
  rw [raised, Halfway, after, ← round_twice_iff units positive, roundAway_of_nonneg stays,
    roundAway_of_nonneg nonneg, after, before, div_left_inj' (by positivity), Int.cast_inj]

theorem roundAway_twice_iff {coarse fine : ℕ} (order : coarse < fine) (x : ℚ) :
    roundAway coarse (roundAway fine x) = roundAway coarse x ↔
      ¬ (Halfway coarse (roundAway fine x) ∧ |x| < |roundAway fine x|) := by
  rcases le_total 0 x with nonneg | nonpos
  · rw [abs_of_nonneg nonneg, abs_of_nonneg (roundAway_nonneg nonneg)]
    exact roundAway_twice_of_nonneg order nonneg
  · have opposite : 0 ≤ -x := neg_nonneg.mpr nonpos
    have reflected := roundAway_twice_of_nonneg order opposite
    have stays : 0 ≤ -roundAway fine x := roundAway_neg fine x ▸ roundAway_nonneg opposite
    rw [roundAway_neg, roundAway_neg, roundAway_neg, neg_inj, halfway_neg] at reflected
    rw [reflected, abs_of_nonpos nonpos, abs_of_nonpos (neg_nonneg.mp stays)]

def signed (negative : Bool) (m : ℚ) : ℚ := if negative then -m else m

theorem abs_signed (negative : Bool) (m : ℚ) : |signed negative m| = |m| := by
  cases negative with
  | true => exact abs_neg m
  | false => rfl

theorem HasPlaces.signed (few : HasPlaces places x) (negative : Bool) :
    HasPlaces places (signed negative x) := by
  obtain ⟨n, units⟩ := few
  cases negative with
  | true => exact ⟨-n, by rw [RecordRows.signed, if_pos rfl, neg_mul, units, Int.cast_neg]⟩
  | false => exact ⟨n, units⟩

theorem roundAway_signed (places : ℕ) (negative : Bool) (m : ℚ) :
    roundAway places (signed negative m) = signed negative (roundAway places m) := by
  cases negative with
  | true => exact roundAway_neg places m
  | false => rfl

namespace Decimal

theorem toRat_eq (d : Decimal) : d.toRat = signed d.negative (d.coefficient / 10 ^ d.scale) := by
  rw [toRat, Rat.mkRat_eq_div, cast_placeValue, signed]
  cases d.negative <;> simp [neg_div]

theorem abs_toRat (d : Decimal) : |d.toRat| = d.coefficient / 10 ^ d.scale := by
  rw [toRat_eq, abs_signed, abs_of_nonneg (by positivity)]

theorem toRat_of_parts {d : Decimal} {negative : Bool} {n scale : ℕ}
    (sign : d.negative = (negative && n != 0)) (coefficient : d.coefficient = n)
    (place : d.scale = scale) :
    d.toRat = signed negative (n / 10 ^ scale) := by
  rw [toRat_eq, sign, coefficient, place]
  by_cases zero : n = 0
  · cases negative <;> simp [zero, signed]
  · have present : (n != 0) = true := bne_iff_ne.mpr zero
    rw [present, Bool.and_true]

theorem hasPlaces (d : Decimal) : HasPlaces d.scale d.toRat :=
  d.toRat_eq ▸ (hasPlaces_div d.coefficient d.scale).signed d.negative

theorem toRat_roundTo (places : ℕ) (d : Decimal) :
    (d.roundTo places).toRat = roundAway places d.toRat := by
  rw [roundTo]
  split
  · next few =>
    rw [(d.hasPlaces.mono few).rounded]
  · next many =>
    have few : places ≤ d.scale := by omega
    rw [toRat_eq d, roundAway_signed, roundAway_div few]
    exact toRat_of_parts rfl rfl rfl

theorem whole_lt_iff (d : Decimal) (digits : ℕ) :
    d.coefficient / placeValue d.scale < placeValue digits ↔ |d.toRat| < 10 ^ digits := by
  rw [abs_toRat, Nat.div_lt_iff_lt_mul (placeValue_pos _), div_lt_iff₀ (by positivity),
    ← cast_placeValue, ← cast_placeValue]
  norm_cast

theorem wholeWidth_le_iff (d : Decimal) (digits : ℕ) :
    d.wholeWidth ≤ digits ↔ |d.toRat| < 10 ^ digits := by
  rw [← whole_lt_iff, wholeWidth]
  split
  · next zero =>
    rw [zero]
    exact iff_of_true (Nat.zero_le digits) (placeValue_pos digits)
  · next present => rw [Nat.succ_le_iff, log10_lt_iff (Nat.pos_of_ne_zero present)]

theorem fit?_eq_some_iff {d fitted : Decimal} {precision scale : ℕ} :
    d.fit? precision scale = some fitted ↔
      |roundAway scale d.toRat| < 10 ^ (precision - scale) ∧ d.roundTo scale = fitted := by
  rw [fit?, Option.ite_none_left_eq_some, Option.some.injEq, not_lt, wholeWidth_le_iff,
    toRat_roundTo]

theorem fit?_eq_none_iff {d : Decimal} {precision scale : ℕ} :
    d.fit? precision scale = none ↔ 10 ^ (precision - scale) ≤ |roundAway scale d.toRat| := by
  rw [← not_lt, Option.eq_none_iff_forall_ne_some]
  simp [fit?_eq_some_iff]

theorem fit?_of_few {d : Decimal} {precision scale : ℕ} (few : d.scale ≤ scale)
    (small : |d.toRat| < 10 ^ (precision - scale)) : d.fit? precision scale = some d := by
  have still : roundAway scale d.toRat = d.toRat := (d.hasPlaces.mono few).rounded
  have kept : d.roundTo scale = d := by rw [roundTo, dif_pos few]
  exact fit?_eq_some_iff.mpr ⟨still.symm ▸ small, kept⟩

/-- What has been fitted to a column has the value of the decimal rounded once, and stays within the
digits of the column. -/
theorem fitted_spec {d fitted : Decimal} {precision scale : ℕ}
    (fits : d.fit? precision scale = some fitted) :
    fitted.toRat = roundAway scale d.toRat ∧ fitted.scale ≤ scale ∧
      |fitted.toRat| < 10 ^ (precision - scale) := by
  obtain ⟨small, rfl⟩ := fit?_eq_some_iff.mp fits
  have value := toRat_roundTo scale d
  exact ⟨value, scale_roundTo_le scale d, value.symm ▸ small⟩

end Decimal

theorem HasPlaces.units_lt {digits : ℕ} (few : HasPlaces places x)
    (small : |x| < 10 ^ (digits - places)) (within : places ≤ digits) :
    ∃ n : ℤ, x * 10 ^ places = n ∧ |n| < 10 ^ digits := by
  obtain ⟨n, units⟩ := few
  have unit : (0 : ℚ) < 10 ^ places := by positivity
  have below : (|n| : ℚ) < 10 ^ digits := by
    calc
      (|n| : ℚ) = |x| * 10 ^ places := by rw [← units, abs_mul, abs_of_pos unit]
      _ < 10 ^ (digits - places) * 10 ^ places := mul_lt_mul_of_pos_right small unit
      _ = 10 ^ digits := by rw [← pow_add, Nat.sub_add_cancel within]
  exact ⟨n, units, by exact_mod_cast below⟩

end RecordRows
