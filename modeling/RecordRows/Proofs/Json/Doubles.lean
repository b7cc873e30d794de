import RecordRows.Proofs.Decimal.Binary
import RecordRows.Proofs.Decimal.RoundTrip
import RecordRows.Proofs.Json.Reading
/-! Doubles read from a text: few digits close to the point give the double that their number is
rounded to, so that values with such doubles are read back from their text. -/

namespace RecordRows.JsonValue

open Text Decimal

section Numbers

variable {n : ℕ} {exponent : ℤ} {t : NumberText} {x : Double}

theorem significand_eq {digits : List Char} (small : digitsFrom n digits < UInt64.size) :
    significand n digits = (digitsFrom n digits, 0) := by
  induction digits generalizing n with
  | nil => rfl
  | cons c cs ih =>
    have first : n * 10 + digitValue c < UInt64.size := (le_digitsFrom _ cs).trans_lt small
    rw [significand, if_pos first]
    exact ih small

theorem mul_zpow_lt_overflow (small : n < 2 ^ 53) (high : exponent ≤ 22) :
    (n : ℚ) * 10 ^ exponent < Binary.overflow .double := by
  have power : (10 : ℚ) ^ exponent ≤ 10 ^ (22 : ℤ) := zpow_le_zpow_right₀ (by norm_num) high
  calc
    (n : ℚ) * 10 ^ exponent ≤ 2 ^ 53 * 10 ^ (22 : ℤ) :=
      mul_le_mul (by exact_mod_cast small.le) power (ten_zpow_pos _).le (by positivity)
    _ < 2 ^ (127 : ℤ) := by norm_num
    _ ≤ 2 ^ (Binary.topExponent .double - 1) := two_zpow_le_iff.mpr (by decide)
    _ ≤ Binary.overflow .double := Binary.two_zpow_le_overflow .double

theorem power_eq {places : ℕ} (few : places ≤ 22) : power places = 10 ^ places :=
  nearest_placeValue few

/-- Up to these bounds the factors are exact, and the only rounding is that of the result. -/
theorem scaled?_eq (small : n < 2 ^ 53) (low : -22 ≤ exponent) (high : exponent ≤ 22) :
    scaled? n exponent = some (.round .double false (n * 10 ^ exponent)) := by
  have own : (nearest n).absolute = n := nearest_natCast small
  have finite : (Binary.round .double false (n * 10 ^ exponent)).isFinite :=
    ((Binary.rounds_round false (by positivity)).nearest (mul_zpow_lt_overflow small high)).1
  rw [scaled?]
  dsimp only
  rw [if_neg (by omega), own]
  split
  · next nonneg =>
    obtain ⟨places, rfl⟩ := Int.eq_ofNat_of_zero_le nonneg
    rw [Int.toNat_natCast, power_eq (by omega), ← zpow_natCast]
    exact Option.filter_eq_some_iff.mpr ⟨rfl, finite⟩
  · next negative =>
    obtain ⟨places, rfl⟩ : ∃ places : ℕ, exponent = -places := ⟨(-exponent).toNat, by omega⟩
    rw [if_pos (by omega), neg_neg, Int.toNat_natCast, power_eq (by omega), nearest, zpow_neg,
      zpow_natCast, div_eq_mul_inv]

theorem signed_round (negative : Bool) {q : ℚ} (nonneg : 0 ≤ q) :
    signed negative (.round .double false q) = .round .double negative q := by
  rw [signed, Binary.magnitude_round false nonneg]
  rfl

/-- Few digits, the last of them close to the point. -/
structure NumberText.Brief (t : NumberText) : Prop where
  units_lt : t.units < 2 ^ 53
  le_place : -22 ≤ t.place
  place_le : t.place ≤ 22

theorem NumberText.Brief.toDouble?_eq (brief : t.Brief) :
    t.toDouble? = some (.round .double t.negative t.absolute) := by
  have room : 2 ^ 53 ≤ UInt64.size := by decide
  have all : digitsFrom (digitsValue t.whole) (t.fraction.getD []) = t.units :=
    (digitsFrom_append 0 t.whole _).symm
  have behind : digitsFrom (digitsValue t.whole) (t.fraction.getD []) < UInt64.size :=
    all ▸ brief.units_lt.trans_le room
  have whole : significand 0 t.whole = (digitsValue t.whole, 0) :=
    significand_eq ((le_digitsFrom _ _).trans_lt behind)
  have fraction : significand (digitsValue t.whole) (t.fraction.getD []) = (t.units, 0) :=
    all ▸ significand_eq behind
  have place : t.exponent.getD 0 + (0 : ℕ) - ((t.fraction.getD []).length - 0 : ℕ) = t.place := by
    rw [Nat.sub_zero, Nat.cast_zero, add_zero, place]
  have nonneg : 0 ≤ t.absolute := t.absolute_eq ▸ by positivity
  simp only [toDouble?, whole, fraction]
  rw [place, scaled?_eq brief.units_lt brief.le_place brief.place_le, Option.map_some,
    ← t.absolute_eq, signed_round t.negative nonneg]

/-- A brief number with a point or an exponent is read as the double that it is rounded to. -/
theorem NumberText.Brief.reads_iff (brief : t.Brief)
    (marked : t.fraction.isSome ∨ t.exponent.isSome) :
    t.Reads x ↔ x.Rounds t.negative t.absolute := by
  have nonneg : 0 ≤ t.absolute := t.absolute_eq ▸ by positivity
  have value : t.value? = some (double (.round .double t.negative t.absolute)) := by
    rw [value?, brief.toDouble?_eq]
    rcases marked with point | raised
    · simp [point]
    · simp [raised]
  rw [Reads, value, Binary.rounds_iff nonneg, Option.some.injEq, double.injEq, eq_comm]

/-- A double whose shortest digits are brief is read back from its number. -/
theorem NumberText.Brief.reads_number (brief : x.number.Brief) (finite : x.isFinite) :
    x.number.Reads x := by
  obtain ⟨marked, sign, -, near⟩ := Binary.denotes_number finite
  have below : x.number.absolute < Binary.overflow .double :=
    x.number.absolute_eq ▸ mul_zpow_lt_overflow brief.units_lt brief.place_le
  exact (brief.reads_iff marked).mpr
    ⟨sign.symm, fun _ => ⟨finite, near⟩, fun above => absurd below (not_lt.mpr above)⟩

end Numbers

/-- A value whose doubles are printed with few digits is read back from its text. -/
theorem read?_text_of_brief {v : JsonValue} (shallow : v.Shallow maxLevels) (sorted : v.Sorted)
    (storable : v.Storable) (brief : v.EachDouble fun x => x.number.Brief) :
    read? v.text.toList = some v :=
  read?_text shallow sorted storable
    ((storable.eachDouble.and brief).imp fun _ own => own.2.reads_number own.1)

-- The double that is printed as 0.1.
example : (⟨0x3fb999999999999a⟩ : Double).number.Brief :=
  ⟨by decide +kernel, by decide +kernel, by decide +kernel⟩

end RecordRows.JsonValue
