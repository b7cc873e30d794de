import RecordRows.Proofs.Decimal.Plain
import RecordRows.Proofs.Session.ReadBack
/-! Columns of exact decimals: what they make of a decimal and of a plain decimal text, and which
texts they take. -/

namespace RecordRows.Session

open Text

variable {s : Session} {r : Record} {field : Field DataType} {name : String} {v : Value}
  {d : Decimal} {t : Plain} {precision scale : ℕ} {result : Decimal}

theorem convertField_exact (exact : s.decimalMode = .exact) :
    s.convertField r field (.primitive (.decimal precision scale)) =
      exactCell r field.name precision scale := by
  simp only [convertField, exact]

theorem exactCell_overflow (found : r.get? name = some v) (coerced : v.toDecimal = .ok (some d))
    (wide : d.fit? precision scale = none) :
    exactCell r name precision scale = .error (.decimalOverflow d precision scale) := by
  simp only [exactCell, Record.access, found, coerced, wide]

theorem exactCell_error {cause : ValueError} (found : r.get? name = some v)
    (refused : v.toDecimal = .error cause) :
    exactCell r name precision scale = .error (.access ⟨name, cause⟩) := by
  simp only [exactCell, Record.access, found, refused]

theorem exactCell_eq_decimal_iff (found : r.get? name = some v) :
    exactCell r name precision scale = .ok (.decimal result) ↔
      ∃ d, v.toDecimal = .ok (some d) ∧ d.fit? precision scale = some result := by
  constructor
  · intro converted
    cases coerced : v.toDecimal with
    | error cause =>
      rw [exactCell_error found coerced] at converted
      cases converted
    | ok outcome =>
      cases outcome with
      | none => simp [exactCell, Record.access, found, coerced] at converted
      | some d =>
        refine ⟨d, rfl, ?_⟩
        cases fits : d.fit? precision scale with
        | none =>
          rw [exactCell_overflow found coerced fits] at converted
          cases converted
        | some fitted =>
          rw [exactCell_some found coerced fits] at converted
          cases converted
          rfl
  · rintro ⟨d, coerced, fits⟩
    exact exactCell_some found coerced fits

/-- A decimal is rounded to the places of the column once. It is taken if its integer part has room
in the column then, and what has been taken is taken again as it is. -/
theorem exactCell_fits (found : r.get? name = some v) (coerced : v.toDecimal = .ok (some d))
    (within : scale ≤ precision) :
    (|roundAway scale d.toRat| < 10 ^ (precision - scale) →
      ∃ fitted, d.fit? precision scale = some fitted ∧
        exactCell r name precision scale = .ok (.decimal fitted) ∧
        fitted.toRat = roundAway scale d.toRat ∧ fitted.scale ≤ scale ∧
        (∃ n : ℤ, fitted.toRat * 10 ^ scale = n ∧ |n| < 10 ^ precision) ∧
        fitted.fit? precision scale = some fitted) ∧
    (10 ^ (precision - scale) ≤ |roundAway scale d.toRat| →
      d.fit? precision scale = none ∧
      exactCell r name precision scale = .error (.decimalOverflow d precision scale) ∧
      (FieldError.decimalOverflow d precision scale).message =
        d.text ++ " does not fit decimal(" ++ natText precision ++ "," ++ natText scale ++
        ")") := by
  constructor
  · intro small
    obtain ⟨fitted, fits⟩ : ∃ fitted, d.fit? precision scale = some fitted :=
      ⟨_, Decimal.fit?_eq_some_iff.mpr ⟨small, rfl⟩⟩
    obtain ⟨value, few, below⟩ := Decimal.fitted_spec fits
    have units := (fitted.hasPlaces.mono few).units_lt below within
    exact ⟨fitted, fits, exactCell_some found coerced fits, value, few, units,
      Decimal.fit?_of_few few below⟩
  · intro wide
    have none := Decimal.fit?_eq_none_iff.mpr wide
    exact ⟨none, exactCell_overflow found coerced none, rfl⟩

def lowPrice : Decimal := (Decimal.ofInt32 (-9994)).movePointLeft 3

def highPrice : Decimal := (Decimal.ofInt32 9996).movePointLeft 3

def prices : Record where
  schema := [⟨"low", .decimal 4 3, true⟩, ⟨"high", .decimal 4 3, true⟩]
  values := [("low", .decimal lowPrice), ("high", .decimal highPrice)]

theorem exactCell_fits_prices :
    (∃ fitted, exactCell prices "low" 3 2 = .ok (.decimal fitted) ∧
      fitted.toRat = roundAway 2 lowPrice.toRat) ∧
    exactCell prices "high" 3 2 = .error (.decimalOverflow highPrice 3 2) := by
  constructor
  · have found : prices.get? "low" = some (.decimal lowPrice) := rfl
    have fits : lowPrice.fit? 3 2 = some ((Decimal.ofInt32 (-999)).movePointLeft 2) := by decide
    have small := (Decimal.fit?_eq_some_iff.mp fits).1
    obtain ⟨fitted, -, taken, value, -⟩ := (exactCell_fits found rfl (by decide)).1 small
    exact ⟨fitted, taken, value⟩
  · have found : prices.get? "high" = some (.decimal highPrice) := rfl
    have wide : highPrice.fit? 3 2 = none := by decide
    exact ((exactCell_fits found rfl (by decide)).2 (Decimal.fit?_eq_none_iff.mp wide)).2.1

theorem exactCell_text_iff (found : r.get? name = some (.string t.text)) :
    exactCell r name precision scale = .ok (.decimal result) ↔
      ∃ d, Decimal.read? t.chars = some d ∧ d.fit? precision scale = some result := by
  rw [exactCell_eq_decimal_iff found, Plain.toDecimal_text]
  cases Decimal.read? t.chars <;> simp [orError]

theorem exactCell_unread (found : r.get? name = some (.string t.text))
    (unread : Decimal.read? t.chars = none) :
    exactCell r name precision scale = .error (.access ⟨name, .unparseable t.text .decimal⟩) := by
  have refused : (Value.string t.text).toDecimal = .error (.unparseable t.text .decimal) := by
    rw [Plain.toDecimal_text, unread, orError]
  exact exactCell_error found refused

theorem exactCell_read (found : r.get? name = some (.string t.text))
    (read : Decimal.read? t.chars = some d) (fraction : t.places ≤ scale)
    (small : |d.toRat| < 10 ^ (precision - scale)) :
    exactCell r name precision scale = .ok (.decimal d) := by
  have few : d.scale ≤ scale :=
    (Plain.mem_room_iff.mp (Plain.read?_some read).1.1).2.1.trans fraction
  exact (exactCell_text_iff found).mpr ⟨d, read, Decimal.fit?_of_few few small⟩

/-- The number of a text is rounded to the places that a decimal has room for, and then to those of
the column. The second rounding makes a difference only where the first one went up to a half. -/
theorem exact_rounded_twice (exact : s.decimalMode = .exact)
    (found : r.get? field.name = some (.string t.text))
    (converted : s.convertField r field (.primitive (.decimal precision scale)) =
      .ok (.decimal result)) :
    ∃ kept, IsGreatest t.room kept ∧ result.toRat = roundAway scale (roundAway kept t.value) ∧
      (kept = t.places → result.toRat = roundAway scale t.value) ∧
      (kept ≤ scale → result.toRat = roundAway kept t.value) ∧
      (scale < kept → (result.toRat = roundAway scale t.value ↔
        ¬ (Halfway scale (roundAway kept t.value) ∧ |t.value| < |roundAway kept t.value|))) := by
  rw [convertField_exact exact, exactCell_text_iff found] at converted
  obtain ⟨d, read, fits⟩ := converted
  obtain ⟨greatest, first⟩ := Plain.read?_some read
  have twice : result.toRat = roundAway scale (roundAway d.scale t.value) := by
    rw [(Decimal.fitted_spec fits).1, first]
  refine ⟨d.scale, greatest, twice, ?_, ?_, ?_⟩
  · intro all
    rw [twice, all, t.hasPlaces.rounded]
  · intro few
    rw [twice, ((hasPlaces_roundAway d.scale t.value).mono few).rounded]
  · intro more
    rw [twice]
    exact roundAway_twice_iff more t.value

/-- A little less than half a hundredth: `0.004` with 26 nines behind it. -/
def nearHalf : Plain where
  minus := none
  whole := ['0']
  fraction := some ('0' :: '0' :: '4' :: List.replicate 26 '9')
  digit := by decide
  nonempty := by decide

def payment (t : Plain) : Record where
  schema := [⟨"total", .string, true⟩]
  values := [("total", .string t.text)]

def hundredth : Decimal := (Decimal.ofInt32 1).movePointLeft 2

theorem convertField_nearHalf :
    ledgerSession.convertField (payment nearHalf) ⟨"total", .string, true⟩
      (.primitive (.decimal 10 2)) = .ok (.decimal hundredth) := by
  rw [convertField_exact rfl, exactCell_text_iff (t := nearHalf) rfl]
  exact ⟨⟨false, 50000000000000000000000000, 28, by decide, by decide⟩, by rfl, by rfl⟩

theorem exact_rounded_twice_nearHalf : ∃ kept, IsGreatest nearHalf.room kept ∧
    hundredth.toRat = roundAway 2 (roundAway kept nearHalf.value) := by
  obtain ⟨kept, greatest, twice, -⟩ :=
    exact_rounded_twice (t := nearHalf) (s := ledgerSession) rfl rfl convertField_nearHalf
  exact ⟨kept, greatest, twice⟩

/-- Less than half a hundredth becomes a hundredth. -/
theorem below_half_raised : ¬ ∀ (s : Session) (r : Record) (field : Field DataType) (t : Plain)
    (precision scale : ℕ) (result : Decimal), s.decimalMode = .exact → 1 ≤ precision →
      precision ≤ 38 → scale ≤ precision → r.get? field.name = some (.string t.text) →
        s.convertField r field (.primitive (.decimal precision scale)) = .ok (.decimal result) →
          result.toRat = roundAway scale t.value := by
  intro claim
  have once := claim ledgerSession (payment nearHalf)
    ⟨"total", .string, true⟩ nearHalf 10 2 hundredth rfl (by decide) (by decide) (by decide)
    rfl convertField_nearHalf
  have none : roundOff nearHalf.units (nearHalf.places - 2) = 0 := by decide
  have value : hundredth.toRat = 1 / 100 := by
    have positive : hundredth.negative = false := rfl
    have coefficient : hundredth.coefficient = 1 := rfl
    have scale : hundredth.scale = 2 := rfl
    rw [Decimal.toRat_eq, positive, coefficient, scale]
    norm_num [signed]
  rw [Plain.roundAway_value (by decide), none, value] at once
  norm_num [signed, nearHalf, Plain.negative] at once

/-- A text of few enough digits for the column is taken if it is a number for which a decimal has
room, as long as it stays within the column with the places for which there is room. One that keeps
all its places gives its number. -/
theorem exact_accepts (exact : s.decimalMode = .exact)
    (found : r.get? field.name = some (.string t.text)) (within : scale ≤ precision)
    (fraction : t.places ≤ scale) (whole : t.wholeDigits.length ≤ precision - scale) :
    (round |t.value| < (Decimal.capacity : ℤ) → ∃ kept, IsGreatest t.room kept ∧
      (|roundAway kept t.value| < 10 ^ (precision - scale) → ∃ result,
        s.convertField r field (.primitive (.decimal precision scale)) = .ok (.decimal result))) ∧
    ((Decimal.capacity : ℤ) ≤ round |t.value| →
      s.convertField r field (.primitive (.decimal precision scale)) =
        .error (.access ⟨field.name, .unparseable t.text .decimal⟩)) ∧
    (t.places ≤ 28 ∧ t.units < Decimal.capacity ∨ precision ≤ 28 →
      ∃ result,
        s.convertField r field (.primitive (.decimal precision scale)) = .ok (.decimal result) ∧
        result.toRat = t.value) := by
  rw [convertField_exact exact]
  refine ⟨?_, ?_, ?_⟩
  · intro small
    obtain ⟨d, read⟩ : ∃ d, Decimal.read? t.chars = some d := by
      rw [← Option.ne_none_iff_exists', ne_eq, Plain.read?_eq_none_iff, not_le]
      exact small
    obtain ⟨greatest, value⟩ := Plain.read?_some read
    exact ⟨d.scale, greatest,
      fun below => ⟨d, exactCell_read found read fraction (value.symm ▸ below)⟩⟩
  · intro wide
    exact exactCell_unread found (Plain.read?_eq_none_iff.mpr wide)
  · intro room
    have few : t.places ≤ 28 ∧ t.units < Decimal.capacity := by
      rcases room with few | narrow
      · exact few
      · refine ⟨by omega, ?_⟩
        calc
          t.units < placeValue (precision - scale) * placeValue t.places := Plain.units_lt whole
          _ = placeValue (precision - scale + t.places) := (placeValue_add _ _).symm
          _ ≤ placeValue 28 := Nat.pow_le_pow_right (by decide) (by omega)
          _ < Decimal.capacity := by decide
    obtain ⟨d, read, value⟩ := Plain.exists_read? (Plain.isGreatest_places few.1 few.2)
    rw [t.hasPlaces.rounded] at value
    exact ⟨d, exactCell_read found read fraction (value.symm ▸ Plain.abs_value_lt whole), value⟩

def refund : Plain where
  minus := some true
  whole := ['0', '1', '2']
  fraction := some ['5', '0']
  digit := by decide
  nonempty := by decide

def nines : Plain where
  minus := none
  whole := List.replicate 38 '9'
  fraction := none
  digit := by decide
  nonempty := by decide

theorem read?_nines : Decimal.read? nines.chars = none := by
  rfl

theorem exact_accepts_refund :
    (∃ result, ledgerSession.convertField (payment refund) ⟨"total", .string, true⟩
      (.primitive (.decimal 4 2)) = .ok (.decimal result) ∧ result.toRat = refund.value) ∧
    ledgerSession.convertField (payment nines) ⟨"total", .string, true⟩
      (.primitive (.decimal 38 0)) =
        .error (.access ⟨"total", .unparseable nines.text .decimal⟩) := by
  constructor
  · exact (exact_accepts (t := refund) (s := ledgerSession) rfl rfl (by decide) (by decide)
      (by decide)).2.2 (.inr (by decide))
  · exact (exact_accepts (t := nines) (s := ledgerSession) rfl rfl (by decide) (by decide)
      (by decide)).2.1 (Plain.read?_eq_none_iff.mp read?_nines)

/-- A column of 38 digits refuses its greatest number. -/
theorem nines_refused : ¬ ∀ (s : Session) (r : Record) (field : Field DataType) (t : Plain)
    (precision scale : ℕ), s.decimalMode = .exact → 1 ≤ precision → precision ≤ 38 →
      scale ≤ precision → r.get? field.name = some (.string t.text) → t.places ≤ scale →
        t.wholeDigits.length ≤ precision - scale → ∃ result,
          s.convertField r field (.primitive (.decimal precision scale)) =
            .ok (.decimal result) := by
  intro claim
  obtain ⟨result, converted⟩ :=
    claim ledgerSession (payment nines) ⟨"total", .string, true⟩ nines 38 0 rfl
    (by decide) (by decide) (by decide) rfl (by decide) (by decide)
  rw [convertField_exact rfl, exactCell_text_iff (t := nines) rfl] at converted
  obtain ⟨d, read, -⟩ := converted
  rw [read?_nines] at read
  cases read

end RecordRows.Session
