import Mathlib.Data.List.TakeWhile
import RecordRows.Proofs.Decimal.Rounding
/-! Plain decimal texts, and what is read from one: the number rounded once, to as many of its
places as there is room for. -/

namespace RecordRows.Decimal

open Text

theorem digitValue_lt {c : Char} (digit : c.isDigit) : digitValue c < 10 := by
  have range := digit_range digit
  have zero : '0'.toNat = 48 := rfl
  rw [digitValue, zero]
  omega

theorem digitsFrom_dropZeros (digits : List Char) :
    digitsFrom 0 (digits.dropWhile (· = '0')) = digitsFrom 0 digits := by
  induction digits with
  | nil => rfl
  | cons c cs ih =>
    rw [List.dropWhile_cons]
    split
    · next zero =>
      have same : c = '0' := of_decide_eq_true zero
      rw [ih, same]
      rfl
    · rfl

theorem digitsFrom_div {digits : List Char} (decimal : ∀ c ∈ digits, c.isDigit) (n : ℕ) :
    digitsFrom n digits / placeValue digits.length = n := by
  induction digits generalizing n with
  | nil => exact Nat.div_one n
  | cons c cs ih =>
    have one : digitValue c < 10 := digitValue_lt (decimal c List.mem_cons_self)
    rw [digitsFrom_cons, List.length_cons, placeValue_succ, ← Nat.div_div_eq_div_mul,
      ih fun d member => decimal d (List.mem_cons_of_mem c member)]
    omega

/-- What is read from the digits `n`, of which `places` stand behind the point: as many of them
as there is room for, rounded at the next one. Nothing is read if the digits before the point do
not fit. -/
def Kept (negative : Bool) (n places : ℕ) : Option Decimal → Prop
  | some d => d.scale ≤ places ∧ d.coefficient = roundOff n (places - d.scale) ∧
      d.negative = (negative && d.coefficient != 0) ∧
      (d.scale = places ∨ d.scale = 28 ∨ capacity ≤ roundOff n (places - (d.scale + 1)))
  | none => capacity ≤ roundOff n places

section Reading

variable {negative : Bool} {n places : ℕ}

theorem kept_make {m scale : ℕ} (fits : m < capacity) (inside : scale ≤ 28) (few : scale ≤ places)
    (value : m = roundOff n (places - scale))
    (full : scale = places ∨ scale = 28 ∨ capacity ≤ roundOff n (places - (scale + 1))) :
    Kept negative n places (make? negative m scale) := by
  rw [make?, dif_pos ⟨fits, inside⟩]
  exact ⟨few, value, rfl, full⟩

theorem roundOn_kept {r : Reading} {c : Char} {cs : List Char} (small : r.coefficient < capacity)
    (inside : r.scale ≤ 28) (decimal : ∀ d ∈ c :: cs, d.isDigit)
    (full : r.scale = 28 ∨ capacity ≤ r.coefficient * 10 + digitValue c) :
    Kept negative (digitsFrom r.coefficient (c :: cs)) (r.scale + (cs.length + 1))
      (r.roundOn negative (c :: cs)) := by
  obtain ⟨coefficient, scale, afterPoint, hasDigit⟩ := r
  dsimp only at small inside full ⊢
  have digit : c.isDigit := decimal c List.mem_cons_self
  have one : digitValue c < 10 := digitValue_lt digit
  have only : (c :: cs).all (fun d => d.isDigit || d = '_') = true := by
    rw [List.all_eq_true]
    intro d member
    rw [decimal d member, Bool.true_or]
  have up : roundsUp (c :: cs) = decide (5 ≤ digitValue c) := by simp [roundsUp, digit]
  have known : digitsFrom coefficient (c :: cs) / placeValue (cs.length + 1) = coefficient :=
    digitsFrom_div decimal coefficient
  have further :
      digitsFrom coefficient (c :: cs) / placeValue cs.length = coefficient * 10 + digitValue c :=
    digitsFrom_div (fun d member => decimal d (List.mem_cons_of_mem c member)) _
  generalize digitsFrom coefficient (c :: cs) = n at known further ⊢
  have here : roundOff n (cs.length + 1) = (coefficient * 10 + digitValue c + 5) / 10 := by
    rw [roundOff_succ, further]
  have before : roundOff n (cs.length + 2) = (coefficient + 5) / 10 := by rw [roundOff_succ, known]
  have beyond : scale = 28 ∨ capacity ≤ roundOff n cs.length :=
    full.imp_right fun wide => wide.trans (further ▸ div_le_roundOff n cs.length)
  have left : scale + (cs.length + 1) - scale = cs.length + 1 := by omega
  have next : scale + (cs.length + 1) - (scale + 1) = cs.length := by omega
  rw [Reading.roundOn, only, Bool.not_true, if_neg Bool.false_ne_true, up]
  dsimp only
  -- Down, up, or up to the capacity itself: then one more digit is given up, or there is none
  -- behind the point.
  split
  · next down =>
    have low : ¬ 5 ≤ digitValue c := by simpa using down
    apply kept_make small inside (Nat.le_add_right _ _)
    · rw [left, here]
      omega
    · rw [next]
      exact .inr beyond
  · next raised =>
    have high : 5 ≤ digitValue c := by simpa using raised
    have carried : roundOff n (cs.length + 1) = coefficient + 1 := by
      rw [here]
      omega
    split
    · next fits =>
      apply kept_make fits inside (Nat.le_add_right _ _)
      · rw [left, carried]
      · rw [next]
        exact .inr beyond
    · next past =>
      have wide : capacity ≤ roundOff n (cs.length + 1) := by
        rw [carried]
        omega
      split
      · next none =>
        rw [Kept, none, Nat.zero_add]
        exact wide
      · next some =>
        have less : scale + (cs.length + 1) - (scale - 1) = cs.length + 2 := by omega
        have again : scale + (cs.length + 1) - (scale - 1 + 1) = cs.length + 1 := by omega
        apply kept_make (by omega) (by omega) (by omega)
        · rw [less, before]
        · rw [again]
          exact .inr (.inr wide)

theorem readFrom_full {r : Reading} (full : r.scale = 28) {c : Char} (digit : c.isDigit)
    (cs : List Char) : readFrom negative r (c :: cs) = r.roundOn negative (c :: cs) := by
  have underscore : decide (c = '_') = false := by
    apply decide_eq_false
    rintro rfl
    cases digit
  have kept : (c :: cs).dropWhile (· = '_') = c :: cs := by
    rw [List.dropWhile_cons, underscore, if_neg Bool.false_ne_true]
  rw [readFrom, if_pos full, Reading.roundAtScale, kept, ite_self]

theorem readFrom_wide {r : Reading} (room : r.scale ≠ 28) {c : Char} (digit : c.isDigit)
    (wide : capacity ≤ r.coefficient * 10 + digitValue c) (cs : List Char) :
    readFrom negative r (c :: cs) =
      if r.afterPoint then r.roundOn negative (c :: cs) else none := by
  rw [readFrom, if_neg room, if_pos digit]
  exact if_neg (Nat.not_lt.mpr wide)

theorem readFrom_fraction_kept {r : Reading} (behind : r.afterPoint = true)
    (small : r.coefficient < capacity) (inside : r.scale ≤ 28) {digits : List Char}
    (decimal : ∀ c ∈ digits, c.isDigit)
    (some : r.hasDigit ∨ digits ≠ []) :
    Kept negative (digitsFrom r.coefficient digits) (r.scale + digits.length)
      (readFrom negative r digits) := by
  induction digits generalizing r with
  | nil =>
    have read : r.hasDigit = true := by simpa using some
    rw [readFrom, read, if_pos rfl]
    apply kept_make small inside (Nat.le_add_right _ _)
    · rw [List.length_nil, Nat.add_zero, Nat.sub_self, roundOff_zero]
      rfl
    · exact .inl rfl
  | cons c cs ih =>
    have digit : c.isDigit := decimal c List.mem_cons_self
    by_cases full : r.scale = 28
    · rw [readFrom_full full digit]
      exact roundOn_kept small inside decimal (.inl full)
    by_cases wide : capacity ≤ r.coefficient * 10 + digitValue c
    · rw [readFrom_wide full digit wide, behind, if_pos rfl]
      exact roundOn_kept small inside decimal (.inr wide)
    · have fits : r.coefficient * 10 + digitValue c < capacity := Nat.lt_of_not_le wide
      have others : ∀ d ∈ cs, d.isDigit := fun d member => decimal d (List.mem_cons_of_mem c member)
      have further : (r.push c).scale = r.scale + 1 := by rw [Reading.push, behind, if_pos rfl]
      have length : r.scale + (c :: cs).length = (r.push c).scale + cs.length := by
        rw [further, List.length_cons]
        omega
      rw [readFrom_digit full digit fits, digitsFrom_cons, length]
      exact ih behind fits (by omega) others (.inl rfl)

theorem readFrom_overflow {r : Reading} (unpointed : r.afterPoint = false) (room : r.scale ≠ 28)
    (small : r.coefficient < capacity) {digits : List Char} (decimal : ∀ c ∈ digits, c.isDigit)
    (wide : capacity ≤ digitsFrom r.coefficient digits) (rest : List Char) :
    readFrom negative r (digits ++ rest) = none := by
  induction digits generalizing r with
  | nil => exact absurd small (Nat.not_lt.mpr wide)
  | cons c cs ih =>
    have digit : c.isDigit := decimal c List.mem_cons_self
    rw [List.cons_append]
    by_cases beyond : capacity ≤ r.coefficient * 10 + digitValue c
    · rw [readFrom_wide room digit beyond, unpointed, if_neg Bool.false_ne_true]
    · have fits : r.coefficient * 10 + digitValue c < capacity := Nat.lt_of_not_le beyond
      have stays : (r.push c).scale = r.scale := by simp [Reading.push, unpointed]
      rw [readFrom_digit room digit fits]
      exact ih unpointed (stays ▸ room) fits
        (fun d member => decimal d (List.mem_cons_of_mem c member)) wide

end Reading

end RecordRows.Decimal

namespace RecordRows

open Text Decimal

/-- A plain decimal text: digits with at most one point, behind an optional sign. -/
structure Plain where
  /-- The sign, if there is one, is a minus or a plus. -/
  minus : Option Bool
  whole : List Char
  fraction : Option (List Char)
  digit : ∀ c ∈ whole ++ fraction.getD [], c.isDigit
  nonempty : whole ++ fraction.getD [] ≠ []

namespace Plain

variable (t : Plain)

def negative : Bool := t.minus == some true

def signChars : List Char :=
  match t.minus with
  | none => []
  | some true => ['-']
  | some false => ['+']

def pointed : List Char :=
  match t.fraction with
  | none => []
  | some digits => '.' :: digits

def chars : List Char := t.signChars ++ (t.whole ++ t.pointed)

def text : String := String.ofList t.chars

def wholeDigits : List Char := t.whole.dropWhile (· = '0')

def units : ℕ := digitsValue (t.whole ++ t.fraction.getD [])

def places : ℕ := (t.fraction.getD []).length

def value : ℚ := signed t.negative (t.units / 10 ^ t.places)

variable {t}

theorem digit_of_whole : ∀ c ∈ t.whole, c.isDigit :=
  fun c member => t.digit c (List.mem_append_left _ member)

theorem digit_of_fraction : ∀ c ∈ t.fraction.getD [], c.isDigit :=
  fun c member => t.digit c (List.mem_append_right _ member)

theorem units_eq : t.units = digitsFrom (digitsFrom 0 t.whole) (t.fraction.getD []) :=
  digitsFrom_append _ _ _

theorem whole_eq : t.units / placeValue t.places = digitsFrom 0 t.whole := by
  rw [units_eq]
  exact digitsFrom_div digit_of_fraction _

theorem readFrom_kept (negative : Bool) :
    Kept negative t.units t.places
      (readFrom negative ⟨0, 0, false, false⟩ (t.whole ++ t.pointed)) := by
  have room : (0 : ℕ) ≠ 28 := by decide
  by_cases wide : capacity ≤ digitsFrom 0 t.whole
  · have beyond : readFrom negative ⟨0, 0, false, false⟩ (t.whole ++ t.pointed) = none :=
      readFrom_overflow rfl room (by decide) digit_of_whole wide _
    rw [beyond]
    exact wide.trans (whole_eq ▸ div_le_roundOff _ _)
  · have fits : digitsFrom 0 t.whole < capacity := Nat.lt_of_not_le wide
    have unpointed : false → 0 + t.whole.length ≤ 28 := nofun
    have read : readFrom negative ⟨0, 0, false, false⟩ (t.whole ++ t.pointed) =
        readFrom negative ⟨digitsFrom 0 t.whole, 0, false, !t.whole.isEmpty⟩ t.pointed := by
      rw [readFrom_digits digit_of_whole (fun _ => room) unpointed fits, foldl_push]
      rfl
    have behind := digit_of_fraction (t := t)
    have nonempty := t.nonempty
    rw [read, units_eq, pointed, places]
    cases parts : t.fraction with
    | none =>
      rw [parts, Option.getD_none, List.append_nil] at nonempty
      have some : (!t.whole.isEmpty) = true := by simpa using nonempty
      dsimp only
      rw [readFrom, some, if_pos rfl]
      apply kept_make fits (by decide) (Nat.le_refl 0)
      · exact (roundOff_zero _).symm
      · exact .inl rfl
    | some digits =>
      rw [parts, Option.getD_some] at behind nonempty
      have some : (!t.whole.isEmpty) = true ∨ digits ≠ [] := by
        by_cases empty : t.whole = []
        · exact .inr (by simpa [empty] using nonempty)
        · exact .inl (by simpa using empty)
      have point :
          readFrom negative ⟨digitsFrom 0 t.whole, 0, false, !t.whole.isEmpty⟩ ('.' :: digits) =
            readFrom negative ⟨digitsFrom 0 t.whole, 0, true, !t.whole.isEmpty⟩ digits :=
        readFrom_point room rfl digits
      have kept : Kept negative (digitsFrom (digitsFrom 0 t.whole) digits) (0 + digits.length)
          (readFrom negative ⟨digitsFrom 0 t.whole, 0, true, !t.whole.isEmpty⟩ digits) :=
        readFrom_fraction_kept rfl fits (Nat.zero_le 28) behind some
      rw [Nat.zero_add] at kept
      dsimp only
      rw [point]
      exact kept

theorem mark_of_sign : ∀ c ∈ t.signChars, c ∈ ['.', '-', '+'] := by
  rw [signChars]
  cases t.minus with
  | none => exact nofun
  | some minus => cases minus <;> decide

theorem digit_or_point : ∀ c ∈ t.whole ++ t.pointed, c.isDigit ∨ c = '.' := by
  intro c member
  rcases List.mem_append.mp member with whole | behind
  · exact .inl (digit_of_whole c whole)
  · have fraction := digit_of_fraction (t := t)
    rw [pointed] at behind
    cases parts : t.fraction with
    | none =>
      rw [parts] at behind
      cases behind
    | some digits =>
      rw [parts] at behind fraction
      rcases List.mem_cons.mp behind with point | digit
      · exact .inr point
      · exact .inl (fraction c digit)

theorem digit_or_mark : ∀ c ∈ t.chars, c.isDigit ∨ c ∈ ['.', '-', '+'] := by
  intro c member
  rcases List.mem_append.mp member with sign | digits
  · exact .inr (mark_of_sign c sign)
  · apply (digit_or_point c digits).imp_right
    rintro rfl
    decide

theorem visible_chars : Visible t.chars := by
  intro c member
  rcases digit_or_mark c member with digit | mark
  · exact isBlank_of_digit digit
  · have shown : ∀ c ∈ ['.', '-', '+'], isBlank c = false := by decide
    exact shown c mark

theorem readScientific?_chars : readScientific? t.chars = none := by
  have plain : t.chars.dropWhile (fun c => !decide (c = 'e' ∨ c = 'E')) = [] := by
    rw [List.dropWhile_eq_nil_iff]
    intro c member
    have other : ¬ (c = 'e' ∨ c = 'E') := by
      have kind := digit_or_mark c member
      rintro (rfl | rfl) <;> exact absurd kind (by decide)
    simpa using other
  rw [readScientific?, plain]

theorem whole_pointed_ne_nil : t.whole ++ t.pointed ≠ [] := by
  have nonempty := t.nonempty
  rw [pointed]
  cases parts : t.fraction with
  | none =>
    rw [parts] at nonempty
    exact nonempty
  | some digits => simp

theorem readPlain?_chars :
    readPlain? t.chars = readFrom t.negative ⟨0, 0, false, false⟩ (t.whole ++ t.pointed) := by
  rw [chars, signChars, negative]
  cases t.minus with
  | none =>
    obtain ⟨c, cs, parts⟩ := List.exists_cons_of_ne_nil (whole_pointed_ne_nil (t := t))
    have kind : c.isDigit ∨ c = '.' := digit_or_point c (parts ▸ List.mem_cons_self)
    rw [parts]
    apply readPlain?_unsigned
    · rintro rfl
      exact absurd kind (by decide)
    · rintro rfl
      exact absurd kind (by decide)
  | some minus => cases minus <;> rfl

theorem read?_kept : Kept t.negative t.units t.places (Decimal.read? t.chars) := by
  have read : Decimal.read? t.chars =
      readFrom t.negative ⟨0, 0, false, false⟩ (t.whole ++ t.pointed) := by
    rw [Decimal.read?, readPlain?_chars, readScientific?_chars]
    simp
  rw [read]
  exact readFrom_kept t.negative

theorem toDecimal_text :
    (Value.string t.text).toDecimal =
      orError (.unparseable t.text .decimal) (Decimal.read? t.chars) := by
  rw [Value.toDecimal, readText, text, String.toList_ofList, trim_visible visible_chars]

theorem whole_lt : digitsFrom 0 t.whole < placeValue t.wholeDigits.length := by
  have decimal : ∀ c ∈ t.wholeDigits, c.isDigit :=
    fun c member => digit_of_whole c ((List.dropWhile_sublist _).subset member)
  have none := digitsFrom_div decimal 0
  rw [wholeDigits, digitsFrom_dropZeros] at none
  exact Nat.lt_of_div_eq_zero (placeValue_pos _) none

theorem units_lt {k : ℕ} (few : t.wholeDigits.length ≤ k) :
    t.units < placeValue k * placeValue t.places := by
  rw [← Nat.div_lt_iff_lt_mul (placeValue_pos _), whole_eq]
  exact whole_lt.trans_le (Nat.pow_le_pow_right (by decide) few)

/-- The counts of places that a decimal has room for, with the last place rounded. -/
def room (t : Plain) : Set ℕ :=
  {k | k ≤ 28 ∧ k ≤ t.places ∧ round (|t.value| * 10 ^ k) < Decimal.capacity}

theorem abs_value : |t.value| = t.units / 10 ^ t.places := by
  rw [value, abs_signed, abs_of_nonneg (by positivity)]

theorem abs_value_lt {k : ℕ} (few : t.wholeDigits.length ≤ k) : |t.value| < 10 ^ k := by
  have small := units_lt few
  rw [abs_value, div_lt_iff₀ (by positivity), ← cast_placeValue, ← cast_placeValue]
  exact_mod_cast small

theorem round_value {k : ℕ} (few : k ≤ t.places) :
    round (|t.value| * 10 ^ k) = roundOff t.units (t.places - k) := by
  rw [abs_value, div_mul_pow few, round_div_placeValue]

theorem roundAway_value {k : ℕ} (few : k ≤ t.places) :
    roundAway k t.value = signed t.negative (roundOff t.units (t.places - k) / 10 ^ k) := by
  rw [value, roundAway_signed, roundAway_div few]

theorem mem_room_iff {k : ℕ} :
    k ∈ t.room ↔ k ≤ 28 ∧ k ≤ t.places ∧ roundOff t.units (t.places - k) < capacity := by
  rw [room, Set.mem_ofPred_eq]
  refine and_congr_right fun _ => and_congr_right fun few => ?_
  rw [round_value few, Nat.cast_lt]

/-- The decimal that is read is the number rounded once, to the most places that there is
room for. -/
theorem read?_some {d : Decimal} (read : Decimal.read? t.chars = some d) :
    IsGreatest t.room d.scale ∧ d.toRat = roundAway d.scale t.value := by
  have kept : Kept t.negative t.units t.places (some d) := read ▸ read?_kept
  obtain ⟨few, coefficient, sign, full⟩ := kept
  refine ⟨⟨?_, ?_⟩, ?_⟩
  · exact mem_room_iff.mpr ⟨d.scale_le, few, coefficient ▸ d.coefficient_lt⟩
  · intro k inside
    obtain ⟨small, within, fits⟩ := mem_room_iff.mp inside
    -- More places would only have left more digits than there is room for.
    by_contra more
    rcases full with all | most | wide
    · omega
    · omega
    · have grows : roundOff t.units (t.places - (d.scale + 1)) ≤ roundOff t.units (t.places - k) :=
        roundOff_antitone t.units (by omega)
      omega
  · rw [roundAway_value few]
    exact toRat_of_parts (coefficient ▸ sign) coefficient rfl

theorem wide_of_unread (unread : Decimal.read? t.chars = none) :
    capacity ≤ roundOff t.units t.places := by
  have kept : Kept t.negative t.units t.places none := unread ▸ read?_kept
  exact kept

theorem read?_eq_none_iff :
    Decimal.read? t.chars = none ↔ (Decimal.capacity : ℤ) ≤ round |t.value| := by
  have whole := round_value (t := t) (Nat.zero_le _)
  rw [pow_zero, mul_one, Nat.sub_zero] at whole
  rw [whole, Nat.cast_le]
  constructor
  · exact wide_of_unread
  · intro wide
    cases read : Decimal.read? t.chars with
    | none => rfl
    | some d =>
      have fits := (mem_room_iff.mp (read?_some read).1.1).2.2
      have grows := roundOff_antitone t.units (Nat.sub_le t.places d.scale)
      omega

theorem exists_read? {k : ℕ} (greatest : IsGreatest t.room k) :
    ∃ d, Decimal.read? t.chars = some d ∧ d.toRat = roundAway k t.value := by
  cases read : Decimal.read? t.chars with
  | none =>
    have wide := wide_of_unread read
    have fits := (mem_room_iff.mp greatest.1).2.2
    have grows := roundOff_antitone t.units (Nat.sub_le t.places k)
    omega
  | some d =>
    obtain ⟨own, value⟩ := read?_some read
    exact ⟨d, rfl, greatest.unique own ▸ value⟩

theorem hasPlaces (t : Plain) : HasPlaces t.places t.value :=
  (hasPlaces_div t.units t.places).signed t.negative

theorem isGreatest_places (few : t.places ≤ 28) (fits : t.units < capacity) :
    IsGreatest t.room t.places := by
  refine ⟨mem_room_iff.mpr ⟨few, Nat.le_refl _, ?_⟩, fun k inside => (mem_room_iff.mp inside).2.1⟩
  rw [Nat.sub_self, roundOff_zero]
  exact fits

end Plain

end RecordRows
