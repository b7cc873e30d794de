import RecordRows.Proofs.Binary.Shortest
/-! Numbers are rounded to the nearest one of a width, of two equally near ones to the one with the
even mantissa. From half way past the greatest one they are infinite. -/

namespace RecordRows.Binary

open Text

variable {w : Width} {q : ℚ} {m : ℕ} {negative : Bool} {x y : Binary w}

/-- Half way between the greatest number and the power of two behind it. -/
def overflow (w : Width) : ℚ := 2 ^ topExponent w - 2 ^ (topExponent w - w.fractionBits - 2)

/-- The number that plus or minus `q` is rounded to. -/
structure Rounds (negative : Bool) (q : ℚ) (x : Binary w) : Prop where
  sign : x.negative = negative
  nearest : q < overflow w → x.isFinite ∧ x.Nearest q
  infinite : overflow w ≤ q → x = infinite w negative

section Halves

def half (w : Width) (m : ℕ) : ℚ := (worth w m + worth w (m + 1)) / 2

theorem worth_lt_half (w : Width) (m : ℕ) : worth w m < half w m := by
  have := worth_strictMono w (Nat.lt_succ_self m)
  rw [half]
  linarith

theorem half_lt_worth (w : Width) (m : ℕ) : half w m < worth w (m + 1) := by
  have := worth_strictMono w (Nat.lt_succ_self m)
  rw [half]
  linarith

theorem mod_two_parts (w : Width) (place units : ℕ) :
    (place * 2 ^ w.fractionBits + units) % 2 = units % 2 := by
  have even : 2 ^ w.fractionBits % 2 = 0 := by cases w <;> decide
  rw [Nat.add_mod, Nat.mul_mod, even, Nat.mul_zero, Nat.zero_mod, Nat.zero_add, Nat.mod_mod]

theorem mod_two_mantissa (x : Binary w) : x.mantissa % 2 = x.magnitude % 2 := by
  obtain ⟨-, parts⟩ := ofPlace_parts w x.magnitude
  rw [mantissa_eq, ← mod_two_parts w (placeOf w x.magnitude), parts]

theorem mod_two_infinity (w : Width) : w.infinity % 2 = 0 := by cases w <;> decide

theorem exists_greatest (w : Width) :
    ∃ greatest, w.infinity = greatest + 1 ∧ overflow w = half w greatest := by
  have positive : 0 < 2 ^ w.fractionBits := by positivity
  have field : 2 ≤ 2 ^ w.exponentBits - 1 := by cases w <;> decide
  have normal : OfPlace w (2 ^ w.exponentBits - 3) (2 * 2 ^ w.fractionBits - 1) :=
    ⟨by omega, .inr (by omega)⟩
  have infinity : w.infinity =
      (2 ^ w.exponentBits - 3) * 2 ^ w.fractionBits + (2 * 2 ^ w.fractionBits - 1) + 1 := by
    cases w <;> decide
  refine ⟨_, infinity, ?_⟩
  have unit : (2 : ℚ) ^ (w.minExponent + (2 ^ w.exponentBits - 3 : ℕ)) =
      2 ^ (topExponent w - w.fractionBits - 1) := by
    congr 1
    rw [topExponent, Nat.cast_sub (by omega)]
    push_cast
    omega
  have top : (2 : ℚ) ^ topExponent w =
      2 * 2 ^ w.fractionBits * 2 ^ (topExponent w - w.fractionBits - 1) := by
    rw [← zpow_natCast, ← zpow_one_add₀ two_ne_zero, ← two_zpow_add]
    congr 1
    omega
  have quarter : (2 : ℚ) ^ (topExponent w - w.fractionBits - 2) =
      2 ^ (topExponent w - w.fractionBits - 1) / 2 := by
    have split := two_zpow_add (topExponent w - w.fractionBits - 2) 1
    have next : topExponent w - w.fractionBits - 2 + 1 = topExponent w - w.fractionBits - 1 := by
      omega
    rw [next, zpow_one] at split
    rw [split, mul_div_cancel_right₀ _ two_ne_zero]
  rw [half, ← infinity, worth_infinity, worth_of_ofPlace normal, unit, overflow, quarter, top,
    Nat.cast_sub (by omega)]
  push_cast
  ring

end Halves

theorem roundHalfEven_eq {q : ℚ} {low : ℕ} (above : low ≤ q) (below : q < low + 1) :
    roundHalfEven q =
      (if q < low + 1 / 2 ∨ q = low + 1 / 2 ∧ low % 2 = 0 then low else low + 1 : ℕ) := by
  have floor : q.floor = low := by
    have whole : ⌊q⌋ = (low : ℤ) :=
      Int.floor_eq_iff.mpr ⟨by exact_mod_cast above, by exact_mod_cast below⟩
    exact whole
  have cast : ((low : ℤ) : ℚ) = low := Int.cast_natCast low
  simp only [roundHalfEven, floor, cast, sub_lt_iff_lt_add', lt_sub_iff_add_lt']
  rcases lt_trichotomy q (low + 1 / 2) with less | equal | greater
  · rw [if_pos less, if_pos (.inl less)]
  · rw [if_neg equal.not_lt, if_neg equal.not_gt]
    rcases Nat.mod_two_eq_zero_or_one low with even | odd
    · rw [if_pos (.inr ⟨equal, even⟩)]
      omega
    · have neither : ¬(q < low + 1 / 2 ∨ q = low + 1 / 2 ∧ low % 2 = 0) := by
        rintro (less | ⟨-, even⟩)
        · exact absurd equal less.ne
        · omega
      rw [if_neg neither]
      omega
  · have neither : ¬(q < low + 1 / 2 ∨ q = low + 1 / 2 ∧ low % 2 = 0) := by
      rintro (less | ⟨equal, -⟩)
      · exact absurd less greater.not_gt
      · exact absurd equal greater.ne'
    rw [if_neg greater.not_gt, if_pos greater, if_neg neither]
    omega

/-- A positive number lies between two multiples of the unit of its place. -/
theorem exists_ofPlace (positive : 0 < q) : ∃ place units : ℕ,
    max w.minExponent (floorLog2 q - w.fractionBits) = w.minExponent + place ∧
    OfPlace w place units ∧ (units : ℚ) ≤ q / 2 ^ (w.minExponent + place : ℤ) ∧
    q / 2 ^ (w.minExponent + place : ℤ) < units + 1 := by
  obtain ⟨logLow, logHigh⟩ := floorLog2_spec positive
  obtain ⟨place, least⟩ := Int.le.dest (le_max_left w.minExponent (floorLog2 q - w.fractionBits))
  have unit : (0 : ℚ) < 2 ^ (w.minExponent + place : ℤ) := zpow_pos two_pos _
  obtain ⟨units, parts⟩ : ∃ units : ℕ, ⌊q / 2 ^ (w.minExponent + place : ℤ)⌋ = units :=
    Int.eq_ofNat_of_zero_le (Int.floor_nonneg.mpr (div_nonneg positive.le unit.le))
  obtain ⟨above, below⟩ := Int.floor_eq_iff.mp parts
  rw [Int.cast_natCast] at above below
  refine ⟨place, units, least.symm, ⟨?_, ?_⟩, above, below⟩
  · rw [← pow_succ']
    apply lt_of_mul_zpow_lt (((le_div_iff₀ unit).mp above).trans_lt logHigh)
    push_cast
    omega
  · by_contra short
    rw [not_or, not_le] at short
    obtain ⟨upper, few⟩ := short
    have full : (units : ℚ) + 1 ≤ 2 ^ w.fractionBits := by exact_mod_cast few
    have less : q < 2 ^ floorLog2 q := by
      calc
        q < (units + 1) * 2 ^ (w.minExponent + place : ℤ) := (div_lt_iff₀ unit).mp below
        _ ≤ 2 ^ w.fractionBits * 2 ^ (w.minExponent + place : ℤ) :=
          mul_le_mul_of_nonneg_right full unit.le
        _ = 2 ^ floorLog2 q := by
          rw [← zpow_natCast, ← two_zpow_add]
          congr 1
          omega
    exact absurd logLow (not_le.mpr less)

/-- Rounding chooses between the magnitudes on both sides of a number. -/
theorem exists_sides (nonneg : 0 ≤ q) : ∃ low, worth w low ≤ q ∧ q < worth w (low + 1) ∧
    roundMagnitude w q =
      min w.infinity (if q < half w low ∨ q = half w low ∧ low % 2 = 0 then low else low + 1) := by
  rcases nonneg.eq_or_lt with rfl | positive
  · have above : 0 < half w 0 := worth_zero w ▸ worth_lt_half w 0
    refine ⟨0, (worth_zero w).le, above.trans (half_lt_worth w 0), ?_⟩
    rw [roundMagnitude, if_pos rfl, if_pos (.inl above), Nat.min_zero]
  obtain ⟨place, units, least, normal, above, below⟩ := exists_ofPlace (w := w) positive
  have unit : (0 : ℚ) < 2 ^ (w.minExponent + place : ℤ) := zpow_pos two_pos _
  obtain ⟨samePlace, sameUnits⟩ := parts_of_ofPlace normal
  have low : worth w (place * 2 ^ w.fractionBits + units) =
      units * 2 ^ (w.minExponent + place : ℤ) :=
    worth_of_ofPlace normal
  have high : worth w (place * 2 ^ w.fractionBits + units + 1) =
      (units + 1) * 2 ^ (w.minExponent + place : ℤ) := by rw [worth_succ, samePlace, sameUnits]
  have middle : half w (place * 2 ^ w.fractionBits + units) =
      (units + 1 / 2) * 2 ^ (w.minExponent + place : ℤ) := by
    rw [half, low, high]
    ring
  refine ⟨place * 2 ^ w.fractionBits + units, low ▸ (le_div_iff₀ unit).mp above,
    high ▸ (div_lt_iff₀ unit).mp below, ?_⟩
  simp only [roundMagnitude, if_neg positive.ne', scaleByTwo_eq, Nat.cast_one, one_mul, least,
    roundHalfEven_eq above below, Int.toNat_natCast, add_sub_cancel_left, Nat.shiftLeft_eq, middle,
    ← div_lt_iff₀ unit, ← div_eq_iff unit.ne', mod_two_parts]
  congr 1
  split <;> rfl

/-- The number is not past half the way to the next magnitudes, and on it only if this one is
even. -/
structure Between (w : Width) (m : ℕ) (q : ℚ) : Prop where
  above : ∀ before, m = before + 1 → half w before ≤ q ∧ (half w before = q → m % 2 = 0)
  below : q ≤ half w m
  tie : q = half w m → m % 2 = 0

theorem between_roundMagnitude (nonneg : 0 ≤ q) (below : q < overflow w) :
    roundMagnitude w q < w.infinity ∧ Between w (roundMagnitude w q) q := by
  obtain ⟨low, under, past, rounded⟩ := exists_sides (w := w) nonneg
  obtain ⟨greatest, infinity, same⟩ := exists_greatest w
  rw [same] at below
  have inside : low ≤ greatest := by
    by_contra outside
    have order := (worth_strictMono w).monotone (show greatest + 1 ≤ low by omega)
    have less := half_lt_worth w greatest
    linarith
  split at rounded
  · next nearer =>
    have own : roundMagnitude w q = low := by omega
    rw [own]
    refine ⟨by omega, ⟨fun before next => ?_, ?_, fun equal => ?_⟩⟩
    · have above := (half_lt_worth w before).trans_le (next ▸ under)
      exact ⟨above.le, fun equal => absurd equal above.ne⟩
    · exact nearer.elim le_of_lt fun tie => tie.1.le
    · exact nearer.elim (fun less => absurd equal less.ne) And.right
  · next farther =>
    rw [not_or, not_lt] at farther
    have short : low ≠ greatest := by
      rintro rfl
      exact absurd below (not_lt.mpr farther.1)
    have own : roundMagnitude w q = low + 1 := by omega
    have beyond := past.trans (worth_lt_half w (low + 1))
    rw [own]
    refine ⟨by omega, ⟨fun before next => ?_, beyond.le, fun equal => absurd equal beyond.ne⟩⟩
    obtain rfl : before = low := (Nat.succ.inj next).symm
    refine ⟨farther.1, fun equal => ?_⟩
    have odd := mt (And.intro equal.symm) farther.2
    omega

theorem roundMagnitude_overflow (above : overflow w ≤ q) : roundMagnitude w q = w.infinity := by
  obtain ⟨greatest, infinity, same⟩ := exists_greatest w
  have nonneg : 0 ≤ q :=
    ((worth_nonneg w greatest).trans (worth_lt_half w greatest).le).trans (same ▸ above)
  obtain ⟨low, -, past, rounded⟩ := exists_sides (w := w) nonneg
  rw [same] at above
  have order : greatest < low + 1 := (worth_strictMono w).lt_iff_lt.mp
    ((worth_lt_half w greatest).trans_le above |>.trans past)
  split at rounded
  · next nearer =>
    have outside : greatest ≠ low := by
      rintro rfl
      have even := mod_two_infinity w
      rcases nearer with less | ⟨-, parity⟩
      · exact absurd above (not_le.mpr less)
      · omega
    omega
  · omega

theorem nearest_of_between (between : Between w x.magnitude q) : x.Nearest q := by
  obtain ⟨above, below, tie⟩ := between
  cases own : x.magnitude with
  | zero =>
    rw [own] at below
    have increasing := worth_strictMono w
    have none : worth w 0 = 0 := worth_zero w
    intro y _ other
    rw [absolute_eq, absolute_eq, own] at other ⊢
    have apart : y.magnitude ≠ 0 := fun same => other (congrArg (worth w) same)
    have order := increasing.monotone (show 1 ≤ y.magnitude by omega)
    have closer := closer_below (increasing (show 0 < y.magnitude by omega)) (q := q)
      (by rw [half] at below; linarith)
    rcases closer.1.lt_or_eq with nearer | equal
    · exact .inl nearer
    · exact .inr ⟨equal, by rw [mod_two_mantissa, own]⟩
  | succ before =>
    apply nearest_of_has (by omega)
    obtain ⟨low, even⟩ := above before own
    have lo : x.roundingInterval.lo = half w before := by rw [lo_roundingInterval own, half, own]
    have hi : x.roundingInterval.hi = half w x.magnitude := hi_roundingInterval x
    rw [Interval.has, closed_roundingInterval, mod_two_mantissa, lo, hi]
    by_cases parity : x.magnitude % 2 = 0
    · simp [parity, low, below]
    · simp [parity, low.lt_of_ne (mt even parity), below.lt_of_ne (mt tie parity)]

theorem roundMagnitude_le (nonneg : 0 ≤ q) : roundMagnitude w q ≤ w.infinity := by
  obtain ⟨low, -, -, rounded⟩ := exists_sides (w := w) nonneg
  exact rounded ▸ Nat.min_le_left _ _

theorem magnitude_round (negative : Bool) (nonneg : 0 ≤ q) :
    (round w negative q).magnitude = roundMagnitude w q :=
  magnitude_ofFields negative ((roundMagnitude_le nonneg).trans_lt (infinity_lt w))

theorem negative_round (negative : Bool) (nonneg : 0 ≤ q) :
    (round w negative q).negative = negative :=
  negative_ofFields negative ((roundMagnitude_le nonneg).trans_lt (infinity_lt w))

theorem rounds_round (negative : Bool) (nonneg : 0 ≤ q) :
    (round w negative q).Rounds negative q := by
  have own := magnitude_round (w := w) negative nonneg
  refine ⟨negative_round negative nonneg, fun below => ?_, fun above => ?_⟩
  · obtain ⟨finite, between⟩ := between_roundMagnitude nonneg below
    refine ⟨by rw [isFinite, own]; exact decide_eq_true finite, ?_⟩
    exact nearest_of_between (own.symm ▸ between)
  · rw [round, roundMagnitude_overflow above]
    rfl

theorem eq_of_magnitude (sign : x.negative = y.negative) (same : x.magnitude = y.magnitude) :
    x = y := by
  obtain ⟨x⟩ := x
  obtain ⟨y⟩ := y
  have positive : 0 < w.bits := by cases w <;> decide
  have bits := two_pow_bits w
  congr 1
  apply BitVec.eq_of_toNat_eq
  rw [magnitude, magnitude, BitVec.toNat_setWidth, BitVec.toNat_setWidth] at same
  rw [Binary.negative, Binary.negative, BitVec.msb_eq_decide, BitVec.msb_eq_decide,
    decide_eq_decide] at sign
  have first := x.isLt
  have second := y.isLt
  by_cases high : 2 ^ (w.bits - 1) ≤ x.toNat
  · have upper : 2 ^ (w.bits - 1) ≤ y.toNat := sign.mp high
    rw [Nat.mod_eq_sub_mod high, Nat.mod_eq_sub_mod upper, Nat.mod_eq_of_lt (by omega),
      Nat.mod_eq_of_lt (by omega)] at same
    omega
  · rwa [Nat.mod_eq_of_lt (not_le.mp high), Nat.mod_eq_of_lt (not_le.mp (mt sign.mpr high))] at same

theorem Nearest.magnitude_le (first : x.Nearest q) (second : y.Nearest q) (finite : x.isFinite)
    (other : y.isFinite) : y.magnitude ≤ x.magnitude := by
  -- Between two numbers that are both nearest lies a third one that is nearer.
  by_contra order
  rw [not_le] at order
  have increasing := worth_strictMono w
  have less := increasing order
  have own := first y other (by rw [absolute_eq, absolute_eq]; exact less.ne')
  have opposite := second x finite (by rw [absolute_eq, absolute_eq]; exact less.ne)
  rw [absolute_eq, absolute_eq, mod_two_mantissa] at own opposite
  obtain ⟨equal, even⟩ :
      |q - worth w x.magnitude| = |q - worth w y.magnitude| ∧ x.magnitude % 2 = 0 := by
    rcases own with nearer | tie
    · rcases opposite with farther | ⟨equal, -⟩
      · exact absurd nearer farther.not_gt
      · exact absurd nearer equal.not_gt
    · exact tie
  have parity : y.magnitude % 2 = 0 := (opposite.resolve_left (lt_irrefl _ <| equal ▸ ·)).2
  have middle : q = (worth w x.magnitude + worth w y.magnitude) / 2 := by
    rcases abs_eq_abs.mp equal with same | mirrored
    · exact absurd (sub_right_injective same) less.ne
    · linarith
  have bound : y.magnitude < w.infinity := decide_eq_true_eq.mp other
  have inner : (ofFields w false (x.magnitude + 1)).magnitude = x.magnitude + 1 :=
    magnitude_ofFields false ((Nat.succ_le_of_lt order).trans_lt (bound.trans (infinity_lt w)))
  have low := increasing (Nat.lt_succ_self x.magnitude)
  have high := increasing (show x.magnitude + 1 < y.magnitude by omega)
  have least : |q - worth w x.magnitude| ≤ |q - worth w (x.magnitude + 1)| := by
    have third := first (ofFields w false (x.magnitude + 1))
      (by rw [isFinite, inner]; exact decide_eq_true (by omega))
      (by rw [absolute_eq, absolute_eq, inner]; exact low.ne')
    rw [absolute_eq, absolute_eq, inner] at third
    exact third.elim le_of_lt fun tie => tie.1.le
  rw [abs_of_pos (by linarith : 0 < q - worth w x.magnitude), le_abs] at least
  rcases least with left | right
  · linarith
  · linarith

theorem Rounds.unique (first : x.Rounds negative q) (second : y.Rounds negative q) : x = y := by
  rcases lt_or_ge q (overflow w) with below | above
  · obtain ⟨finite, near⟩ := first.nearest below
    obtain ⟨other, nearer⟩ := second.nearest below
    have same := Nat.le_antisymm (nearer.magnitude_le near other finite)
      (near.magnitude_le nearer finite other)
    exact eq_of_magnitude (first.sign.trans second.sign.symm) same
  · rw [first.infinite above, second.infinite above]

theorem rounds_iff (nonneg : 0 ≤ q) : x.Rounds negative q ↔ x = round w negative q := by
  constructor
  · exact fun rounds => rounds.unique (rounds_round negative nonneg)
  · rintro rfl
    exact rounds_round negative nonneg

section Scientific

variable {digits : ℕ} {exponent : ℤ}

theorem roundMagnitude_of_lt_half (nonneg : 0 ≤ q) (small : q < half w 0) :
    roundMagnitude w q = 0 := by
  obtain ⟨low, under, -, rounded⟩ := exists_sides (w := w) nonneg
  have first : low < 1 :=
    (worth_strictMono w).lt_iff_lt.mp (under.trans_lt (small.trans (half_lt_worth w 0)))
  obtain rfl : low = 0 := by omega
  rw [rounded, if_pos (.inl small), Nat.min_zero]

theorem tiny_lt_half (w : Width) : (10 : ℚ) ^ (-(400 : ℕ) : ℤ) < half w 0 := by
  have parts : placeOf w 0 = 0 ∧ unitsOf w 0 = 0 := by simp [placeOf, unitsOf]
  have least : half w 0 = 2 ^ w.minExponent / 2 := by
    rw [half, worth_zero, worth_succ, parts.1, parts.2, Nat.cast_zero, Nat.cast_zero, zero_add,
      zero_add, one_mul, add_zero]
  have less : (2 : ℚ) ^ (-(1200 : ℕ) : ℤ) < 2 ^ w.minExponent / 2 := by
    have split := two_zpow_add (w.minExponent - 1) 1
    rw [sub_add_cancel, zpow_one] at split
    rw [split, mul_div_cancel_right₀ _ two_ne_zero]
    exact two_zpow_lt_iff.mpr (by cases w <;> decide)
  refine lt_of_le_of_lt ?_ (least ▸ less)
  rw [zpow_neg, zpow_neg, zpow_natCast, zpow_natCast]
  exact inv_anti₀ (by positivity) (two_pow_le_ten_pow (Nat.le_refl _))

theorem overflow_lt_huge (w : Width) : overflow w < 10 ^ 400 := by
  have top : (2 : ℚ) ^ topExponent w ≤ 2 ^ ((1024 : ℕ) : ℤ) :=
    two_zpow_le_iff.mpr (by cases w <;> decide)
  rw [zpow_natCast] at top
  calc
    overflow w < 2 ^ topExponent w := sub_lt_self _ (zpow_pos two_pos _)
    _ ≤ 2 ^ 1024 := top
    _ ≤ 10 ^ 400 := two_pow_le_ten_pow (by decide)

theorem length_toDigits (n : ℕ) : (Nat.toDigits 10 n).length = log10 n + 1 := by
  have some := List.length_pos_iff.mpr (natChars_ne_nil n)
  rw [natChars] at some
  rw [log10, natChars]
  omega

theorem scientific_lt (digits : ℕ) (exponent : ℤ) :
    (digits : ℚ) * 10 ^ exponent < 10 ^ ((log10 digits + 1 : ℕ) + exponent) := by
  have bound : digits < placeValue (log10 digits + 1) := by
    rcases Nat.eq_zero_or_pos digits with rfl | positive
    · exact placeValue_pos _
    · exact (log10_lt_iff positive).mp (Nat.lt_succ_self _)
  rw [ten_zpow_add, zpow_natCast]
  exact mul_lt_mul_of_pos_right (by exact_mod_cast bound) (ten_zpow_pos exponent)

theorem le_scientific (positive : 0 < digits) (exponent : ℤ) :
    (10 : ℚ) ^ ((log10 digits : ℕ) + exponent) ≤ digits * 10 ^ exponent := by
  have first : placeValue (log10 digits) ≤ digits := by
    rw [← not_lt, ← log10_lt_iff positive, lt_self_iff_false]
    exact not_false
  rw [ten_zpow_add, zpow_natCast]
  exact mul_le_mul_of_nonneg_right (by exact_mod_cast first) (ten_zpow_pos exponent).le

/-- The exponents that are told apart beforehand are those that round to nothing or to infinity. -/
theorem ofScientific_eq (w : Width) (negative : Bool) (digits : ℕ) (exponent : ℤ) :
    ofScientific w negative digits exponent = round w negative (digits * 10 ^ exponent) := by
  have ten : (1 : ℚ) ≤ 10 := by norm_num
  simp only [ofScientific, length_toDigits]
  split
  · next nothing =>
    have none : roundMagnitude w (digits * 10 ^ exponent) = 0 := by
      rcases nothing with zero | tiny
      · rw [zero, Nat.cast_zero, zero_mul, roundMagnitude, if_pos rfl]
      · have small : (10 : ℚ) ^ ((log10 digits + 1 : ℕ) + exponent) ≤ 10 ^ (-(400 : ℕ) : ℤ) :=
          zpow_le_zpow_right₀ ten (by push_cast; omega)
        exact roundMagnitude_of_lt_half (by positivity)
          ((scientific_lt digits exponent).trans (small.trans_lt (tiny_lt_half w)))
    rw [round, none, zero]
  · next some =>
    rw [not_or] at some
    split
    · next huge =>
      have great : (10 : ℚ) ^ ((400 : ℕ) : ℤ) ≤ 10 ^ ((log10 digits : ℕ) + exponent) :=
        zpow_le_zpow_right₀ ten (by omega)
      rw [zpow_natCast] at great
      have above : overflow w ≤ digits * 10 ^ exponent :=
        (overflow_lt_huge w).le.trans
          (great.trans (le_scientific (Nat.pos_of_ne_zero some.1) exponent))
      rw [round, roundMagnitude_overflow above]
      rfl
    · split
      · next nonneg =>
        obtain ⟨n, rfl⟩ := Int.eq_ofNat_of_zero_le nonneg
        rw [Int.toNat_natCast, Nat.cast_mul, cast_placeValue, zpow_natCast]
      · next negative =>
        obtain ⟨n, rfl⟩ : ∃ n : ℕ, exponent = -n := ⟨(-exponent).toNat, by omega⟩
        rw [neg_neg, Int.toNat_natCast, Rat.mkRat_eq_div, cast_placeValue, zpow_neg, zpow_natCast,
          div_eq_mul_inv, Int.cast_natCast]

end Scientific

end RecordRows.Binary
