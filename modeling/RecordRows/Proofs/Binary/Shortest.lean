import Mathlib.Data.List.TakeWhile
import RecordRows.Binary.Shortest
import RecordRows.Proofs.Binary.Exact
/-! The digits that a binary number is printed with: no other number of its width is nearer
to them. -/

namespace RecordRows

open Text

theorem powerOfTen_eq (exponent : ℤ) : powerOfTen exponent = 10 ^ exponent := by
  rw [powerOfTen]
  split
  · next nonneg =>
    obtain ⟨n, rfl⟩ := Int.eq_ofNat_of_zero_le nonneg
    rw [cast_placeValue, zpow_natCast]
    rfl
  · next negative =>
    obtain ⟨n, rfl⟩ : ∃ n : ℕ, exponent = -n := ⟨(-exponent).toNat, by omega⟩
    rw [Rat.mkRat_eq_div, cast_placeValue, zpow_neg, zpow_natCast, Int.cast_one, one_div]
    congr 2
    omega

theorem ten_zpow_add (a b : ℤ) : (10 : ℚ) ^ (a + b) = 10 ^ a * 10 ^ b := zpow_add₀ (by norm_num) a b

theorem ten_zpow_pos (a : ℤ) : (0 : ℚ) < 10 ^ a := zpow_pos (by norm_num) a

theorem two_pow_le_ten_pow {n : ℕ} (small : n ≤ 3 * 400) : (2 : ℚ) ^ n ≤ 10 ^ 400 := by
  calc
    (2 : ℚ) ^ n ≤ 2 ^ (3 * 400) := pow_le_pow_right₀ (by norm_num) small
    _ = (2 ^ 3) ^ 400 := pow_mul 2 3 400
    _ ≤ 10 ^ 400 := pow_le_pow_left₀ (by norm_num) (by norm_num) 400

theorem roundHalfEven_cases (x : ℚ) : roundHalfEven x = ⌊x⌋ ∨ roundHalfEven x = ⌊x⌋ + 1 := by
  have same : x.floor = ⌊x⌋ := rfl
  simp only [roundHalfEven, same]
  split_ifs
  · exact .inl rfl
  · exact .inr rfl
  · rcases Int.emod_two_eq_zero_or_one ⌊x⌋ with even | odd
    · exact .inl (by omega)
    · exact .inr (by omega)

theorem closer_above {a b q : ℚ} (order : a < b) (above : (a + b) / 2 ≤ q) :
    |q - b| ≤ |q - a| ∧ ((a + b) / 2 < q → |q - b| < |q - a|) := by
  have right : |q - a| = q - a := abs_of_pos (by linarith)
  rw [right, abs_le, abs_lt]
  exact ⟨⟨by linarith, by linarith⟩, fun strict => ⟨by linarith, by linarith⟩⟩

theorem closer_below {a b q : ℚ} (order : a < b) (below : q ≤ (a + b) / 2) :
    |q - a| ≤ |q - b| ∧ (q < (a + b) / 2 → |q - a| < |q - b|) := by
  have left : |q - b| = b - q := by
    rw [abs_sub_comm]
    exact abs_of_pos (by linarith)
  rw [left, abs_le, abs_lt]
  exact ⟨⟨by linarith, by linarith⟩, fun strict => ⟨by linarith, by linarith⟩⟩

namespace Interval

variable {i : Interval} {q : ℚ}

theorem bounds_of_has (inside : i.has q) :
    i.lo ≤ q ∧ q ≤ i.hi ∧ (i.closed = false → i.lo < q ∧ q < i.hi) := by
  rw [has] at inside
  split at inside
  · next closed =>
    have bounds : i.lo ≤ q ∧ q ≤ i.hi := by simpa using inside
    exact ⟨bounds.1, bounds.2, fun opened => by simp [closed] at opened⟩
  · have bounds : i.lo < q ∧ q < i.hi := by simpa using inside
    exact ⟨bounds.1.le, bounds.2.le, fun _ => bounds⟩

theorem has_of_between (above : i.lo < q) (below : q < i.hi) : i.has q := by
  rw [has]
  split
  · simp [above.le, below.le]
  · simp [above, below]

end Interval

namespace Binary

section Grid

variable {i : Interval} {value step : ℚ} {n : ℕ}

theorem onGrid?_has (nonneg : 0 ≤ value / step) (found : onGrid? i value step = some n) :
    i.has (n * step) := by
  have whole : 0 ≤ ⌊value / step⌋ := Int.floor_nonneg.mpr nonneg
  have low : (value / step).floor.toNat = ⌊value / step⌋.toNat := rfl
  simp only [onGrid?, low] at found
  split at found
  · next both =>
    rw [Bool.and_eq_true] at both
    rcases roundHalfEven_cases (value / step) with same | same
    · rw [same] at found
      exact Option.some.inj found ▸ both.1
    · have next : (⌊value / step⌋ + 1).toNat = ⌊value / step⌋.toNat + 1 := by omega
      rw [same, next] at found
      exact Option.some.inj found ▸ both.2
  · split at found
    · exact Option.some.inj found ▸ ‹_›
    · split at found
      · exact Option.some.inj found ▸ ‹_›
      · cases found

theorem exists_onGrid (positive : 0 < step) (nonneg : 0 ≤ value) (above : i.lo < value)
    (below : value < i.hi) (fine : step < i.hi - i.lo) : (onGrid? i value step).isSome := by
  -- Steps that are smaller than the interval cannot skip it.
  have quotient : 0 ≤ value / step := div_nonneg nonneg positive.le
  have low : ((value / step).floor.toNat : ℚ) = ⌊value / step⌋ := by
    exact_mod_cast Int.toNat_of_nonneg (Int.floor_nonneg.mpr quotient)
  have under : ((value / step).floor.toNat : ℚ) * step ≤ value := by
    rw [low, ← le_div_iff₀ positive]
    exact Int.floor_le _
  have past : value < (((value / step).floor.toNat + 1 : ℕ) : ℚ) * step := by
    rw [Nat.cast_succ, low, ← div_lt_iff₀ positive]
    exact Int.lt_floor_add_one _
  have split : (((value / step).floor.toNat + 1 : ℕ) : ℚ) * step =
      ((value / step).floor.toNat : ℚ) * step + step := by
    push_cast
    ring
  have either : i.has ((value / step).floor.toNat * step) ∨
      i.has (((value / step).floor.toNat + 1 : ℕ) * step) := by
    by_contra neither
    rw [not_or] at neither
    have short := mt (Interval.has_of_between · (under.trans_lt below)) neither.1
    have long := mt (Interval.has_of_between (above.trans past)) neither.2
    linarith
  simp only [onGrid?]
  rcases either with first | second
  · rw [first, Bool.true_and]
    split <;> simp
  · rw [second, Bool.and_true]
    split
    · simp
    · simp

theorem searchGrid_has (nonneg : 0 ≤ value) {tries : ℕ} {place : ℤ}
    (last : (onGrid? i value (powerOfTen (place - tries))).isSome) :
    i.has ((searchGrid i value (tries + 1) place).1 *
      powerOfTen (searchGrid i value (tries + 1) place).2) := by
  have quotient (place : ℤ) : 0 ≤ value / powerOfTen place := by
    rw [powerOfTen_eq]
    exact div_nonneg nonneg (ten_zpow_pos place).le
  induction tries generalizing place with
  | zero =>
    rw [Int.natCast_zero, sub_zero] at last
    obtain ⟨n, found⟩ := Option.isSome_iff_exists.mp last
    simp only [searchGrid, found]
    exact onGrid?_has (quotient place) found
  | succ tries ih =>
    rw [searchGrid]
    cases found : onGrid? i value (powerOfTen place) with
    | some n => exact onGrid?_has (quotient place) found
    | none =>
      apply ih
      have same : place - 1 - tries = place - (tries + 1 : ℕ) := by omega
      rwa [same]

end Grid

variable {w : Width} {x : Binary w}

section Interval

theorem closed_roundingInterval (x : Binary w) :
    x.roundingInterval.closed = (x.mantissa % 2 = 0 : Bool) := rfl

theorem quarter_eq (x : Binary w) :
    scaleByTwo 1 (x.exponent - 2) = 2 ^ (w.minExponent + placeOf w x.magnitude) / 4 := by
  have four : (2 : ℚ) ^ (-2 : ℤ) = 1 / 4 := by norm_num
  rw [scaleByTwo_eq, exponent, exponentField_eq, ← placeOf, Nat.cast_one, one_mul, sub_eq_add_neg,
    two_zpow_add, four]
  ring

theorem hi_roundingInterval (x : Binary w) :
    x.roundingInterval.hi = (worth w x.magnitude + worth w (x.magnitude + 1)) / 2 := by
  rw [worth_succ, worth, roundingInterval]
  dsimp only
  rw [quarter_eq, mantissa_eq]
  push_cast
  ring

theorem one_le_unitsOf {m : ℕ} (present : m ≠ 0) : 1 ≤ unitsOf w m := by
  obtain ⟨⟨-, full⟩, parts⟩ := ofPlace_parts w m
  have positive : 0 < 2 ^ w.fractionBits := by positivity
  rcases full with lowest | whole
  · rw [lowest] at parts
    omega
  · omega

theorem worth_before_power {m before : ℕ} (next : m = before + 1)
    (first : m % 2 ^ w.fractionBits = 0) (above : 1 < m / 2 ^ w.fractionBits) :
    worth w before = worth w m - 2 ^ (w.minExponent + placeOf w m) / 2 := by
  obtain ⟨-, parts⟩ := ofPlace_parts w m
  have positive : 0 < 2 ^ w.fractionBits := by positivity
  obtain ⟨place, later⟩ : ∃ place, placeOf w m = place + 1 :=
    ⟨placeOf w m - 1, by unfold placeOf; omega⟩
  have least : unitsOf w m = 2 ^ w.fractionBits := by
    have division := Nat.div_add_mod' m (2 ^ w.fractionBits)
    have quotient : m / 2 ^ w.fractionBits = placeOf w m + 1 := by
      unfold placeOf
      omega
    rw [quotient, Nat.succ_mul] at division
    omega
  have last : OfPlace w place (2 * 2 ^ w.fractionBits - 1) := ⟨by omega, .inr (by omega)⟩
  have earlier : before = place * 2 ^ w.fractionBits + (2 * 2 ^ w.fractionBits - 1) := by
    rw [later, Nat.succ_mul] at parts
    omega
  have unit : (2 : ℚ) ^ (w.minExponent + (place + 1 : ℕ)) = 2 ^ (w.minExponent + place) * 2 := by
    rw [Nat.cast_succ, ← add_assoc, two_zpow_add _ 1, zpow_one]
  rw [earlier, worth_of_ofPlace last, worth, later, least, unit, Nat.cast_sub (by omega)]
  push_cast
  ring

theorem worth_before {m before : ℕ} (next : m = before + 1)
    (inner : ¬(m % 2 ^ w.fractionBits = 0 ∧ 1 < m / 2 ^ w.fractionBits)) :
    worth w before = worth w m - 2 ^ (w.minExponent + placeOf w m) := by
  obtain ⟨⟨few, full⟩, parts⟩ := ofPlace_parts w m
  have positive : 0 < 2 ^ w.fractionBits := by positivity
  have present : 1 ≤ unitsOf w m := one_le_unitsOf (by omega)
  have kept : OfPlace w (placeOf w m) (unitsOf w m - 1) := by
    refine ⟨by omega, ?_⟩
    by_cases lowest : placeOf w m = 0
    · exact .inl lowest
    · have whole := full.resolve_left lowest
      have above : 1 < m / 2 ^ w.fractionBits := by
        unfold placeOf at lowest
        omega
      have rest : m % 2 ^ w.fractionBits ≠ 0 := fun none => inner ⟨none, above⟩
      have other : unitsOf w m ≠ 2 ^ w.fractionBits := by
        intro same
        rw [← parts, same, Nat.mul_add_mod_self_right, Nat.mod_self] at rest
        exact rest rfl
      exact .inr (by omega)
  have earlier : before = placeOf w m * 2 ^ w.fractionBits + (unitsOf w m - 1) := by omega
  rw [earlier, worth_of_ofPlace kept, worth, Nat.cast_sub present]
  push_cast
  ring

theorem lo_roundingInterval {before : ℕ} (next : x.magnitude = before + 1) :
    x.roundingInterval.lo = (worth w before + worth w x.magnitude) / 2 := by
  have present : 1 ≤ unitsOf w x.magnitude := one_le_unitsOf (by omega)
  rw [roundingInterval]
  dsimp only
  rw [quarter_eq, mantissa_eq, fraction_eq, exponentField_eq]
  split
  · next first =>
    rw [worth_before_power next first.1 first.2, worth, Nat.cast_sub (by omega)]
    push_cast
    ring
  · next inner =>
    rw [worth_before next inner, worth, Nat.cast_sub (by omega)]
    push_cast
    ring

end Interval

/-- No finite number is nearer, and if another one is as near, the mantissa is even. -/
def Nearest (x : Binary w) (q : ℚ) : Prop :=
  ∀ y : Binary w, y.isFinite → y.absolute ≠ x.absolute →
    |q - x.absolute| < |q - y.absolute| ∨ |q - x.absolute| = |q - y.absolute| ∧ x.mantissa % 2 = 0

theorem nearest_of_has (present : x.magnitude ≠ 0) {q : ℚ} (inside : x.roundingInterval.has q) :
    x.Nearest q := by
  obtain ⟨before, next⟩ := Nat.exists_eq_succ_of_ne_zero present
  obtain ⟨above, below, strict⟩ := Interval.bounds_of_has inside
  rw [lo_roundingInterval next] at above strict
  rw [hi_roundingInterval] at below strict
  have increasing := worth_strictMono w
  intro y _ other
  rw [absolute_eq, absolute_eq] at other ⊢
  have apart : y.magnitude ≠ x.magnitude := fun same => other (congrArg (worth w) same)
  have near : |q - worth w x.magnitude| ≤ |q - worth w y.magnitude| ∧
      (x.roundingInterval.closed = false →
        |q - worth w x.magnitude| < |q - worth w y.magnitude|) := by
    rcases Nat.lt_or_gt_of_ne apart with less | greater
    · have order := increasing.monotone (show y.magnitude ≤ before by omega)
      have closer := closer_above (increasing less) (q := q) (by linarith)
      exact ⟨closer.1, fun opened => closer.2 (by linarith [(strict opened).1])⟩
    · have order := increasing.monotone (show x.magnitude + 1 ≤ y.magnitude by omega)
      have closer := closer_below (increasing greater) (q := q) (by linarith)
      exact ⟨closer.1, fun opened => closer.2 (by linarith [(strict opened).2])⟩
  rcases near.1.lt_or_eq with nearer | equal
  · exact .inl nearer
  · cases closed : x.roundingInterval.closed with
    | false => exact absurd equal (near.2 closed).ne
    | true =>
      rw [closed_roundingInterval, decide_eq_true_eq] at closed
      exact .inr ⟨equal, closed⟩

theorem absolute_lt (present : x.magnitude ≠ 0) :
    x.absolute < 10 ^ 16 * (x.roundingInterval.hi - x.roundingInterval.lo) := by
  obtain ⟨⟨few, -⟩, -⟩ := ofPlace_parts w x.magnitude
  have quarter : (0 : ℚ) < 2 ^ (w.minExponent + placeOf w x.magnitude) / 4 :=
    div_pos (zpow_pos two_pos _) (by norm_num)
  have some : 1 ≤ x.mantissa := mantissa_eq x ▸ one_le_unitsOf present
  have least : x.fraction = 0 ∧ 1 < x.exponentField → x.mantissa = 2 ^ w.fractionBits := by
    rintro ⟨none, above⟩
    rw [mantissa, if_neg (by omega), none, Nat.one_shiftLeft, Nat.add_zero]
  have size : x.absolute = 4 * x.mantissa * (2 ^ (w.minExponent + placeOf w x.magnitude) / 4) := by
    rw [absolute_eq, worth, mantissa_eq]
    ring
  have digits : 2 * 2 ^ w.fractionBits ≤ 10 ^ 16 := by cases w <;> decide
  rw [size, roundingInterval]
  dsimp only
  rw [quarter_eq, ← sub_mul, ← mul_assoc, mul_lt_mul_iff_left₀ quarter]
  rw [← mantissa_eq] at few
  split
  · next same =>
    have width : ((4 * x.mantissa + 2 : ℕ) : ℚ) - (4 * x.mantissa - 1 : ℕ) = 3 := by
      rw [Nat.cast_sub (by omega)]
      push_cast
      ring
    have bound : 4 * x.mantissa < 10 ^ 16 * 3 := by
      rw [least same]
      omega
    rw [width]
    exact_mod_cast bound
  · have width : ((4 * x.mantissa + 2 : ℕ) : ℚ) - (4 * x.mantissa - 2 : ℕ) = 4 := by
      rw [Nat.cast_sub (by omega)]
      push_cast
      ring
    have bound : 4 * x.mantissa < 10 ^ 16 * 4 := by omega
    rw [width]
    exact_mod_cast bound

theorem pointOf_le {value : ℚ} (large : 1 ≤ value * 10 ^ 400) :
    (10 : ℚ) ^ (pointOf value - 1) ≤ value := by
  have power : powerOfTen 400 = 10 ^ 400 := powerOfTen_eq 400
  have floor : (value * powerOfTen 400).floor = ⌊value * 10 ^ 400⌋ := by rw [power]; rfl
  have whole : 1 ≤ ⌊value * 10 ^ 400⌋ := Int.le_floor.mpr (by exact_mod_cast large)
  obtain ⟨n, units⟩ := Int.eq_ofNat_of_zero_le (le_trans (by decide) whole)
  have some : 0 < n := by omega
  have nonempty : 0 < (natChars n).length := List.length_pos_iff.mpr (natChars_ne_nil n)
  have first : placeValue ((natChars n).length - 1) ≤ n := by
    rw [← not_lt, ← log10_lt_iff some, log10]
    omega
  have below : (n : ℚ) ≤ value * 10 ^ 400 := by
    have under := Int.floor_le (value * 10 ^ 400)
    rw [units] at under
    exact_mod_cast under
  have place : pointOf value - 1 = ((natChars n).length - 1 : ℕ) - (400 : ℕ) := by
    rw [pointOf, floor, units, Int.toNat_natCast]
    omega
  rw [place, zpow_sub₀ (by norm_num), zpow_natCast, zpow_natCast, div_le_iff₀ (by positivity),
    ← cast_placeValue]
  exact le_trans (by exact_mod_cast first) below

theorem one_le_absolute (present : x.magnitude ≠ 0) : 1 ≤ x.absolute * 10 ^ 400 := by
  have first : (2 : ℚ) ^ w.minExponent ≤ worth w 1 := by
    have above : (2 : ℚ) ^ w.minExponent ≤ 2 ^ (w.minExponent + placeOf w 0) :=
      two_zpow_le_iff.mpr (by omega)
    have unit : (1 : ℚ) ≤ unitsOf w 0 + 1 := by
      have := Nat.cast_nonneg (α := ℚ) (unitsOf w 0)
      linarith
    rw [worth_succ w 0]
    exact above.trans (le_mul_of_one_le_left (zpow_pos two_pos _).le unit)
  have least : worth w 1 ≤ x.absolute := by
    rw [absolute_eq]
    exact (worth_strictMono w).monotone (Nat.one_le_iff_ne_zero.mpr present)
  have one : (1 : ℚ) ≤ 2 ^ w.minExponent * 10 ^ 400 := by
    have smallest : (2 : ℚ) ^ (-(1074 : ℕ) : ℤ) ≤ 2 ^ w.minExponent :=
      two_zpow_le_iff.mpr (by cases w <;> decide)
    refine le_trans ?_ (mul_le_mul_of_nonneg_right smallest (by positivity))
    rw [zpow_neg, zpow_natCast, inv_mul_eq_div, one_le_div (by positivity)]
    exact two_pow_le_ten_pow (by decide)
  exact one.trans (mul_le_mul_of_nonneg_right (first.trans least) (by positivity))

/-- Seventeen digits suffice to come into the rounding interval. -/
theorem searchGrid_shortest (present : x.magnitude ≠ 0) :
    x.roundingInterval.has
      ((searchGrid x.roundingInterval x.absolute 17 (pointOf x.absolute - 1)).1 *
        powerOfTen (searchGrid x.roundingInterval x.absolute 17 (pointOf x.absolute - 1)).2) := by
  obtain ⟨before, next⟩ := Nat.exists_eq_succ_of_ne_zero present
  have nonneg : 0 ≤ x.absolute := x.absolute_eq ▸ worth_nonneg w _
  have increasing := worth_strictMono w
  apply searchGrid_has nonneg
  apply exists_onGrid
  · exact powerOfTen_eq _ ▸ ten_zpow_pos _
  · exact nonneg
  · have less := increasing (show before < x.magnitude by omega)
    rw [lo_roundingInterval next, absolute_eq]
    linarith
  · have less := increasing (show x.magnitude < x.magnitude + 1 by omega)
    rw [hi_roundingInterval, absolute_eq]
    linarith
  · have coarse := pointOf_le (one_le_absolute present)
    have sixteen : (10 : ℚ) ^ (pointOf x.absolute - 1) =
        10 ^ (pointOf x.absolute - 1 - (16 : ℕ)) * 10 ^ 16 := by
      rw [← zpow_natCast, ← ten_zpow_add, sub_add_cancel]
    rw [sixteen] at coarse
    have fine := coarse.trans_lt (absolute_lt present)
    rw [mul_comm] at fine
    rw [powerOfTen_eq]
    exact lt_of_mul_lt_mul_left fine (by positivity)

end Binary

def Digits.toRat (d : Digits) : ℚ := digitsValue d.digits * 10 ^ (d.point - d.digits.length)

structure Digits.Proper (d : Digits) : Prop where
  nonempty : d.digits ≠ []
  decimal : ∀ c ∈ d.digits, c.isDigit
  first : d.digits.head? ≠ some '0'

theorem exists_zeros (cs : List Char) :
    ∃ zeros, cs = (cs.reverse.dropWhile (· == '0')).reverse ++ List.replicate zeros '0' := by
  have whole := List.takeWhile_append_dropWhile (p := (· == '0')) (l := cs.reverse)
  have zeros : cs.reverse.takeWhile (· == '0') =
      List.replicate (cs.reverse.takeWhile (· == '0')).length '0' := by
    rw [List.eq_replicate_iff]
    refine ⟨rfl, fun c member => ?_⟩
    simpa using List.mem_takeWhile_imp member
  refine ⟨(cs.reverse.takeWhile (· == '0')).length, ?_⟩
  conv_lhs => rw [← cs.reverse_reverse, ← whole, List.reverse_append, zeros, List.reverse_replicate]

namespace Binary

variable {w : Width} {x : Binary w}

theorem lo_pos (present : x.magnitude ≠ 0) : 0 < x.roundingInterval.lo := by
  obtain ⟨before, next⟩ := Nat.exists_eq_succ_of_ne_zero present
  have less := worth_strictMono w (show before < x.magnitude by omega)
  have nonneg := worth_nonneg w before
  rw [lo_roundingInterval next]
  linarith

theorem shortest_spec (present : x.magnitude ≠ 0) :
    x.shortest.Proper ∧ x.roundingInterval.has x.shortest.toRat := by
  have inside := searchGrid_shortest present
  obtain ⟨⟨n, place⟩, found⟩ :
      ∃ r, searchGrid x.roundingInterval x.absolute 17 (pointOf x.absolute - 1) = r := ⟨_, rfl⟩
  rw [found, powerOfTen_eq] at inside
  have parts : x.shortest =
      ⟨((natChars n).reverse.dropWhile (· == '0')).reverse, (natChars n).length + place⟩ := by
    simp only [shortest, found]
  obtain ⟨zeros, whole⟩ := exists_zeros (natChars n)
  rw [parts]
  generalize ((natChars n).reverse.dropWhile (· == '0')).reverse = digits at whole
  have value : n = digitsValue digits * placeValue zeros := by
    rw [← digitsValue_natChars n, whole, digitsValue_append, digitsValue_zeros,
      List.length_replicate, Nat.add_zero]
  have positive : 0 < n := by
    by_contra none
    have low := (Interval.bounds_of_has inside).1
    rw [Nat.eq_zero_of_not_pos none, Nat.cast_zero, zero_mul] at low
    exact absurd (lo_pos present) (not_lt.mpr low)
  have nonempty : digits ≠ [] := by
    rintro rfl
    rw [value] at positive
    exact absurd positive (by simp [digitsValue])
  refine ⟨⟨nonempty, fun c member => ?_, ?_⟩, ?_⟩
  · exact natChars_digits n c (by rw [whole]; exact List.mem_append_left _ member)
  · have first := head_natChars positive
    rwa [whole, List.head?_append_of_ne_nil _ nonempty] at first
  · have shift : ((natChars n).length : ℤ) + place - digits.length = (zeros : ℤ) + place := by
      rw [whole, List.length_append, List.length_replicate]
      push_cast
      ring
    have same : (digitsValue digits : ℚ) * 10 ^ ((zeros : ℤ) + place) = n * 10 ^ place := by
      rw [ten_zpow_add, zpow_natCast, ← cast_placeValue, ← mul_assoc, value, Nat.cast_mul]
    rw [Digits.toRat]
    dsimp only
    rwa [shift, same]

/-- The shortest digits stand for a number that no other one of the width is nearer to. -/
theorem nearest_shortest (present : x.magnitude ≠ 0) : x.Nearest x.shortest.toRat :=
  nearest_of_has present (shortest_spec present).2

end Binary

end RecordRows
