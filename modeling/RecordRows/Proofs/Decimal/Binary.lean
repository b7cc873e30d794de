import RecordRows.Decimal.Binary
import RecordRows.Proofs.Binary.Rounding
/-! Decimals of up to fifteen digits are converted to the nearest doubles, in spite of the roundings
on the way. -/

namespace RecordRows

open Text

namespace Binary

variable {w : Width} {q : ℚ}

theorem worth_two_pow (w : Width) :
    worth w (2 ^ w.fractionBits) = 2 ^ (w.minExponent + w.fractionBits) := by
  have normal : OfPlace w 0 (2 ^ w.fractionBits) := by
    refine ⟨?_, .inl rfl⟩
    have positive : 0 < 2 ^ w.fractionBits := by positivity
    omega
  have worthy := worth_of_ofPlace normal
  rw [Nat.zero_mul, Nat.zero_add] at worthy
  rw [worthy, Nat.cast_pow, Nat.cast_two, Nat.cast_zero, add_zero, two_zpow_add, zpow_natCast,
    mul_comm]

theorem le_unitsOf {m : ℕ} (enough : 2 ^ w.fractionBits ≤ m) :
    2 ^ w.fractionBits ≤ unitsOf w m := by
  obtain ⟨⟨-, full⟩, parts⟩ := ofPlace_parts w m
  rcases full with lowest | full
  · rw [lowest] at parts
    omega
  · exact full

/-- A number with a full mantissa is rounded by at most half a unit of the last place. -/
theorem abs_sub_worth_le (normal : 2 ^ (w.minExponent + w.fractionBits) ≤ q)
    (below : q < overflow w) :
    |worth w (roundMagnitude w q) - q| ≤ q / (2 * 2 ^ w.fractionBits) := by
  have nonneg : 0 ≤ q := (zpow_pos two_pos _).le.trans normal
  obtain ⟨low, under, past, rounded⟩ := exists_sides (w := w) nonneg
  have inside := (between_roundMagnitude nonneg below).1
  have order : 2 ^ w.fractionBits < low + 1 :=
    (worth_strictMono w).lt_iff_lt.mp ((worth_two_pow w ▸ normal).trans_lt past)
  have mantissa : 2 ^ w.fractionBits ≤ unitsOf w low := le_unitsOf (by omega)
  have unit : (0 : ℚ) < 2 ^ (w.minExponent + placeOf w low) := zpow_pos two_pos _
  have own : worth w low = unitsOf w low * 2 ^ (w.minExponent + placeOf w low) := rfl
  have next := worth_succ w low
  have enough : (2 : ℚ) ^ w.fractionBits * 2 ^ (w.minExponent + placeOf w low) ≤ q := by
    refine le_trans (mul_le_mul_of_nonneg_right ?_ unit.le) (own ▸ under)
    exact_mod_cast mantissa
  have half_step : 2 ^ (w.minExponent + placeOf w low) / 2 ≤ q / (2 * 2 ^ w.fractionBits) := by
    rw [div_le_div_iff₀ two_pos (by positivity)]
    linarith
  refine le_trans ?_ half_step
  rw [half, next, own] at rounded
  rw [next] at past
  rw [own] at under
  split at rounded
  · next nearer =>
    have same : roundMagnitude w q = low := by omega
    have less : q ≤ (unitsOf w low * 2 ^ (w.minExponent + placeOf w low) +
        (unitsOf w low + 1) * 2 ^ (w.minExponent + placeOf w low)) / 2 :=
      nearer.elim le_of_lt fun tie => tie.1.le
    rw [same, own, abs_le]
    constructor <;> linarith
  · next farther =>
    have same : roundMagnitude w q = low + 1 := by omega
    rw [not_or, not_lt] at farther
    rw [same, next, abs_le]
    constructor <;> linarith [farther.1]

theorem two_zpow_le_overflow (w : Width) : 2 ^ (topExponent w - 1) ≤ overflow w := by
  have rest : (2 : ℚ) ^ (topExponent w - w.fractionBits - 2) ≤ 2 ^ (topExponent w - 1) :=
    two_zpow_le_iff.mpr (by omega)
  have top := two_zpow_add (topExponent w - 1) 1
  rw [sub_add_cancel, zpow_one] at top
  rw [overflow, top]
  linarith

theorem absolute_round (negative : Bool) (nonneg : 0 ≤ q) :
    (round w negative q).absolute = worth w (roundMagnitude w q) := by
  rw [absolute_eq, magnitude_round negative nonneg]

end Binary

namespace Decimal

open Binary

variable {d : Decimal} {q : ℚ} {n : ℕ}

def grain : ℚ := 1 / 2 ^ 53

/-- At most so many roundings to a double lie between the numbers. -/
def Within (roundings : ℕ) (q r : ℚ) : Prop := |r - q| ≤ q * ((1 + grain) ^ roundings - 1)

section Within

variable {roundings : ℕ} {q r s : ℚ}

theorem within_self (q : ℚ) : Within 0 q q := by
  rw [Within, sub_self, abs_zero, pow_zero, sub_self, mul_zero]

theorem Within.add (near : Within roundings q r) (nonneg : 0 ≤ s) :
    Within roundings (s + q) (s + r) := by
  have more : (1 : ℚ) ≤ (1 + grain) ^ roundings := one_le_pow₀ (by norm_num [grain])
  have wider : q * ((1 + grain) ^ roundings - 1) ≤ (s + q) * ((1 + grain) ^ roundings - 1) :=
    mul_le_mul_of_nonneg_right (by linarith) (by linarith)
  rw [Within, add_sub_add_left_eq_sub]
  exact near.trans wider

theorem Within.mul (near : Within roundings q r) (nonneg : 0 ≤ s) :
    Within roundings (q * s) (r * s) := by
  rw [Within, ← sub_mul, abs_mul, abs_of_nonneg nonneg, mul_right_comm]
  exact mul_le_mul_of_nonneg_right near nonneg

theorem Within.bounds (near : Within roundings q r) (few : roundings ≤ 3) (nonneg : 0 ≤ q) :
    q / 2 ≤ r ∧ r ≤ 2 * q := by
  have power : (1 + grain) ^ roundings ≤ (1 + grain) ^ 3 :=
    pow_le_pow_right₀ (by norm_num [grain]) few
  have little : (1 + grain) ^ 3 ≤ 3 / 2 := by norm_num [grain]
  have change : q * ((1 + grain) ^ roundings - 1) ≤ q * (1 / 2) :=
    mul_le_mul_of_nonneg_left (by linarith) nonneg
  have apart := abs_le.mp (near.trans change)
  constructor <;> linarith

theorem Within.trans_nearest (near : Within roundings q r) (close : |nearest r - r| ≤ r * grain) :
    Within (roundings + 1) q (nearest r) := by
  have high := (abs_le.mp near).2
  have positive : 0 < grain := by norm_num [grain]
  calc
    |nearest r - q| ≤ |nearest r - r| + |r - q| := abs_sub_le _ _ _
    _ ≤ r * grain + q * ((1 + grain) ^ roundings - 1) := add_le_add close near
    _ ≤ q * (1 + grain) ^ roundings * grain + q * ((1 + grain) ^ roundings - 1) := by
      have upper : r ≤ q * (1 + grain) ^ roundings := by linarith
      have scaled := mul_le_mul_of_nonneg_right upper positive.le
      linarith
    _ = q * ((1 + grain) ^ (roundings + 1) - 1) := by ring

end Within

theorem nearest_eq (representable : Representable .double q) (nonneg : 0 ≤ q) : nearest q = q := by
  rw [nearest, absolute_round false nonneg, (worth_roundMagnitude representable nonneg).2]

theorem representable_natCast (small : n < 2 ^ 53) {shift : ℕ} (few : shift ≤ 900) :
    Representable .double (n * 2 ^ shift : ℕ) where
  small := by
    have power : (2 : ℚ) ^ (53 + shift : ℕ) ≤ 2 ^ topExponent .double := by
      rw [← zpow_natCast]
      apply two_zpow_le_iff.mpr
      have top : topExponent .double = 1024 := rfl
      omega
    refine lt_of_lt_of_le ?_ power
    rw [pow_add, Nat.cast_mul, Nat.cast_pow, Nat.cast_two]
    exact mul_lt_mul_of_pos_right (by exact_mod_cast small) (by positivity)
  parts := by
    have least : Width.double.minExponent = -1074 := rfl
    exact ⟨n, shift, small, by omega, by push_cast; rfl⟩

theorem nearest_natCast (small : n < 2 ^ 53) : nearest (n : ℕ) = n := by
  have room := representable_natCast small (Nat.zero_le 900)
  rw [pow_zero, mul_one] at room
  exact nearest_eq room (Nat.cast_nonneg n)

theorem nearest_placeValue {places : ℕ} (few : places ≤ 22) :
    nearest (placeValue places : ℕ) = 10 ^ places := by
  have five : 5 ^ places < 2 ^ 53 := (Nat.pow_le_pow_right (by decide) few).trans_lt (by decide)
  have parts : placeValue places = 5 ^ places * 2 ^ places := Nat.mul_pow 5 2 places
  rw [nearest_eq (parts ▸ representable_natCast five (by omega)) (Nat.cast_nonneg _),
    cast_placeValue]

theorem abs_nearest_sub_le (low : 2 ^ (-100 : ℤ) ≤ q) (high : q ≤ 2 ^ (100 : ℤ)) :
    |nearest q - q| ≤ q * grain := by
  have normal : 2 ^ (Width.double.minExponent + Width.double.fractionBits) ≤ q :=
    (two_zpow_le_iff.mpr (by decide)).trans low
  have below : q < overflow .double :=
    (high.trans_lt (two_zpow_lt_iff.mpr (by decide))).trans_le (two_zpow_le_overflow .double)
  have nonneg : 0 ≤ q := (zpow_pos two_pos _).le.trans low
  have bound : q / (2 * 2 ^ Width.double.fractionBits) = q * grain := by
    rw [grain, mul_one_div]
    norm_num [Width.fractionBits]
  rw [nearest, absolute_round false nonneg, ← bound]
  exact abs_sub_worth_le normal below

theorem Within.nearest {roundings : ℕ} {r : ℚ} (near : Within roundings q r) (few : roundings ≤ 3)
    (low : 2 ^ (-99 : ℤ) ≤ q) (high : q ≤ 2 ^ (99 : ℤ)) : Within (roundings + 1) q (nearest r) := by
  obtain ⟨above, below⟩ := near.bounds few ((zpow_pos two_pos _).le.trans low)
  have least := two_zpow_add (-100) 1
  have greatest := two_zpow_add 99 1
  rw [zpow_one] at least greatest
  apply near.trans_nearest
  apply abs_nearest_sub_le
  · exact ((le_div_iff₀ two_pos).mpr (least ▸ low)).trans above
  · refine below.trans ?_
    rw [mul_comm]
    exact (mul_le_mul_of_nonneg_right high two_pos.le).trans greatest.ge

theorem Within.floor_eq {r : ℚ} (near : Within 3 (n : ℕ) r) (small : n < 2 ^ 50) :
    ⌊r + 1 / 2⌋ = n := by
  have bound : (n : ℚ) ≤ 2 ^ 50 := by exact_mod_cast small.le
  have grains : (2 : ℚ) ^ 50 * ((1 + grain) ^ 3 - 1) < 1 / 2 := by norm_num [grain]
  have change : (n : ℚ) * ((1 + grain) ^ 3 - 1) < 1 / 2 :=
    (mul_le_mul_of_nonneg_right bound (by norm_num [grain])).trans_lt grains
  have apart := abs_lt.mp (near.trans_lt change)
  rw [Int.floor_eq_iff]
  push_cast
  constructor <;> linarith

/-- Each rounding on the way of a decimal to a double changes it by one grain. The three of them
change it by less than half a unit of its last place, which is restored. -/
theorem units_eq {power whole rest : ℕ} (places : power = placeValue d.scale)
    (parts : d.coefficient = whole * power + rest) (some : 0 < rest) (less : rest < power)
    (small : d.coefficient < 2 ^ 50) (few : d.scale ≤ 22) :
    ⌊Decimal.nearest (Decimal.nearest
      (whole + Decimal.nearest (rest / 10 ^ d.scale)) * 10 ^ d.scale) + 1 / 2⌋ = d.coefficient := by
  have ten : (power : ℚ) = 10 ^ d.scale := by rw [places, cast_placeValue]
  have positive : (0 : ℚ) < 10 ^ d.scale := by positivity
  have whole_nonneg : (0 : ℚ) ≤ whole := Nat.cast_nonneg whole
  have one : (1 : ℚ) ≤ rest := by exact_mod_cast some
  have fraction_low : (2 : ℚ) ^ (-99 : ℤ) ≤ rest / 10 ^ d.scale := by
    have least : (10 : ℚ) ^ d.scale ≤ 10 ^ 22 := pow_le_pow_right₀ (by norm_num) few
    rw [le_div_iff₀ positive]
    refine le_trans (le_trans (mul_le_mul_of_nonneg_left least (by positivity)) ?_) one
    norm_num
  have fraction_high : (rest : ℚ) / 10 ^ d.scale < 1 := by
    rw [div_lt_one positive, ← ten]
    exact_mod_cast less
  have value : (whole + rest / 10 ^ d.scale) * 10 ^ d.scale = (d.coefficient : ℚ) := by
    rw [add_mul, div_mul_cancel₀ _ positive.ne', parts, Nat.cast_add, Nat.cast_mul, ten]
  have unit : (1 : ℚ) ≤ d.coefficient := by
    rw [parts]
    exact_mod_cast Nat.le_add_left_of_le some
  have units_high : (d.coefficient : ℚ) ≤ 2 ^ (99 : ℤ) := by
    have bound : (d.coefficient : ℚ) ≤ 2 ^ 50 := by exact_mod_cast small.le
    exact bound.trans (by norm_num)
  have number_high : whole + (rest : ℚ) / 10 ^ d.scale ≤ 2 ^ (99 : ℤ) := by
    refine le_trans ?_ units_high
    rw [← value]
    exact le_mul_of_one_le_right (by positivity) (one_le_pow₀ (by norm_num))
  have tiny : (2 : ℚ) ^ (-99 : ℤ) ≤ 1 := by norm_num
  have fraction := (within_self _).nearest (by decide) fraction_low (by linarith)
  have number := (fraction.add whole_nonneg).nearest (by decide) (by linarith) number_high
  have units := (number.mul positive.le).nearest (by decide) (value ▸ tiny.trans unit)
    (value ▸ units_high)
  rw [value] at units
  exact units.floor_eq small

theorem toDouble_eq (present : d.coefficient ≠ 0) (small : d.coefficient < 2 ^ 50)
    (few : d.scale ≤ 22) :
    d.toDouble = Binary.round .double d.negative (d.coefficient / 10 ^ d.scale) := by
  have positive := placeValue_pos d.scale
  have division := Nat.div_add_mod' d.coefficient (placeValue d.scale)
  have below : d.coefficient / placeValue d.scale < 2 ^ 53 :=
    (Nat.div_le_self _ _).trans_lt (small.trans (by decide))
  have sign : (d.negative && d.coefficient != 0) = d.negative := by simp [present]
  simp only [toDouble, nearest_natCast below, sign]
  split
  · next whole =>
    have one : placeValue 0 = 1 := rfl
    rw [whole, one, Nat.div_one, pow_zero, div_one]
  · split
    · next exact =>
      rw [exact, Nat.add_zero] at division
      congr 1
      rw [eq_div_iff (by positivity), ← cast_placeValue]
      exact_mod_cast division
    · next broken =>
      have rest := Nat.mod_lt d.coefficient positive
      have short : d.coefficient % placeValue d.scale < 2 ^ 53 :=
        (Nat.mod_le _ _).trans_lt (small.trans (by decide))
      have units := units_eq rfl division.symm (Nat.pos_of_ne_zero broken) rest small few
      rw [nearest_natCast short, nearest_placeValue few]
      congr 2
      exact_mod_cast units

end Decimal

end RecordRows
