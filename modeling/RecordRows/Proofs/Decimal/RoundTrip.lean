import RecordRows.Proofs.Text.Blank
import RecordRows.Value.Coerce
/-! The text of a decimal is read back as the same number, and a decimal that has been fitted to a
column fits it as it is. -/

namespace RecordRows.Decimal

open Text

def digitsFrom (n : Nat) (cs : List Char) : Nat := cs.foldl (fun n c => n * 10 + digitValue c) n

theorem le_digitsFrom (n : Nat) (cs : List Char) : n ≤ digitsFrom n cs := by
  induction cs generalizing n with
  | nil => exact Nat.le_refl n
  | cons c cs ih =>
    calc
      n ≤ n * 10 + digitValue c := by omega
      _ ≤ digitsFrom n (c :: cs) := ih _

theorem digitsFrom_cons (n : Nat) (c : Char) (cs : List Char) :
    digitsFrom n (c :: cs) = digitsFrom (n * 10 + digitValue c) cs := List.foldl_cons ..

theorem digitsFrom_append (n : Nat) (front back : List Char) :
    digitsFrom n (front ++ back) = digitsFrom (digitsFrom n front) back := List.foldl_append

def Reading.push (r : Reading) (c : Char) : Reading :=
  ⟨r.coefficient * 10 + digitValue c,
    if r.afterPoint then r.scale + 1 else r.scale, r.afterPoint, true⟩

theorem foldl_push (r : Reading) (digits : List Char) :
    digits.foldl Reading.push r = ⟨digitsFrom r.coefficient digits,
      if r.afterPoint then r.scale + digits.length else r.scale, r.afterPoint,
      r.hasDigit || !digits.isEmpty⟩ := by
  induction digits generalizing r with
  | nil => simp [digitsFrom]
  | cons c digits ih =>
    obtain ⟨coefficient, scale, afterPoint, hasDigit⟩ := r
    rw [List.foldl_cons, ih]
    cases afterPoint with
    | false => simp [Reading.push, digitsFrom]
    | true =>
      have longer : scale + 1 + digits.length = scale + (digits.length + 1) := by omega
      simp [Reading.push, digitsFrom, longer]

theorem readFrom_digit {negative : Bool} {r : Reading} (room : r.scale ≠ 28) {c : Char}
    (digit : c.isDigit) (fits : r.coefficient * 10 + digitValue c < capacity) (cs : List Char) :
    readFrom negative r (c :: cs) = readFrom negative (r.push c) cs := by
  rw [readFrom, if_neg room, if_pos digit, if_pos fits]
  rfl

theorem readFrom_digits {negative : Bool} {r : Reading} {digits : List Char}
    (decimal : ∀ c ∈ digits, c.isDigit) (before : !r.afterPoint → r.scale ≠ 28)
    (behind : r.afterPoint → r.scale + digits.length ≤ 28)
    (fits : digitsFrom r.coefficient digits < capacity) (rest : List Char) :
    readFrom negative r (digits ++ rest) =
      readFrom negative (digits.foldl Reading.push r) rest := by
  induction digits generalizing r with
  | nil => rfl
  | cons c digits ih =>
    have tail : ∀ d ∈ digits, d.isDigit := fun d member => decimal d (List.mem_cons_of_mem c member)
    have small : r.coefficient * 10 + digitValue c < capacity :=
      Nat.lt_of_le_of_lt (le_digitsFrom _ digits) fits
    rw [List.length_cons] at behind
    have room : r.scale ≠ 28 := by
      cases after : r.afterPoint with
      | false => exact before (by rw [after]; rfl)
      | true =>
        have bound := behind after
        omega
    rw [List.cons_append, readFrom_digit room (decimal c List.mem_cons_self) small, List.foldl_cons]
    apply ih tail
    · intro unpointed
      have none : r.afterPoint = false := by simpa [Reading.push] using unpointed
      simp only [Reading.push, none]
      exact room
    · intro pointed
      have some : r.afterPoint = true := pointed
      simp only [Reading.push, some, if_pos]
      have bound := behind some
      omega
    · exact fits

theorem readFrom_point {negative : Bool} {r : Reading} (room : r.scale ≠ 28)
    (first : r.afterPoint = false) (cs : List Char) :
    readFrom negative r ('.' :: cs) = readFrom negative { r with afterPoint := true } cs := by
  have point : ('.' : Char).isDigit = false := rfl
  rw [readFrom, if_neg room, point, if_neg Bool.false_ne_true, if_pos ⟨rfl, by rw [first]; rfl⟩]

def unsigned (d : Decimal) : Decimal := { d with negative := d.negative && d.coefficient != 0 }

theorem make?_eq (d : Decimal) : make? d.negative d.coefficient d.scale = some d.unsigned := by
  rw [make?, dif_pos ⟨d.coefficient_lt, d.scale_le⟩]
  rfl

theorem toRat_unsigned (d : Decimal) : d.unsigned.toRat = d.toRat := by
  by_cases zero : d.coefficient = 0
  · simp [toRat, unsigned, zero]
  · simp [toRat, unsigned, zero]

def digits (d : Decimal) : List Char := padNat (d.scale + 1) d.coefficient

def wholeDigits (d : Decimal) : List Char := d.digits.take (d.digits.length - d.scale)

def fractionDigits (d : Decimal) : List Char := d.digits.drop (d.digits.length - d.scale)

theorem toList_text (d : Decimal) : d.text.toList = (if d.negative then ['-'] else []) ++
    (d.wholeDigits ++ (if d.scale = 0 then [] else '.' :: d.fractionDigits)) := by
  rw [text, String.toList_ofList, List.append_assoc]
  rfl

theorem numeral_digits (d : Decimal) : Numeral d.coefficient d.digits := numeral_padNat _ _

theorem scale_lt_length (d : Decimal) : d.scale < d.digits.length := le_length_padNat _ _

theorem wholeDigits_ne_nil (d : Decimal) : d.wholeDigits ≠ [] := by
  have longer := d.scale_lt_length
  intro empty
  have none := congrArg List.length empty
  rw [wholeDigits, List.length_take, List.length_nil] at none
  omega

theorem length_fractionDigits (d : Decimal) : d.fractionDigits.length = d.scale := by
  have longer := d.scale_lt_length
  rw [fractionDigits, List.length_drop]
  omega

theorem digit_of_whole {d : Decimal} : ∀ c ∈ d.wholeDigits, c.isDigit :=
  fun c member => d.numeral_digits.2.1 c (List.mem_of_mem_take member)

theorem digit_of_fraction {d : Decimal} : ∀ c ∈ d.fractionDigits, c.isDigit :=
  fun c member => d.numeral_digits.2.1 c (List.mem_of_mem_drop member)

theorem digitsFrom_parts (d : Decimal) :
    digitsFrom (digitsFrom 0 d.wholeDigits) d.fractionDigits = d.coefficient := by
  calc
    digitsFrom (digitsFrom 0 d.wholeDigits) d.fractionDigits
      = digitsFrom 0 (d.wholeDigits ++ d.fractionDigits) := (List.foldl_append).symm
    _ = digitsValue d.digits := by rw [wholeDigits, fractionDigits, List.take_append_drop]; rfl
    _ = d.coefficient := d.numeral_digits.2.2

theorem readFrom_whole {negative : Bool} {digits : List Char} (decimal : ∀ c ∈ digits, c.isDigit)
    (nonempty : digits ≠ []) (fits : digitsFrom 0 digits < capacity) (rest : List Char) :
    readFrom negative ⟨0, 0, false, false⟩ (digits ++ rest) =
      readFrom negative ⟨digitsFrom 0 digits, 0, false, true⟩ rest := by
  have some : digits.isEmpty = false := by simpa using nonempty
  have room : (0 : Nat) ≠ 28 := by decide
  have unpointed : false → 0 + digits.length ≤ 28 := nofun
  rw [readFrom_digits decimal (fun _ => room) unpointed fits, foldl_push, some]
  rfl

theorem readFrom_fraction {negative : Bool} {n : Nat} {digits : List Char}
    (decimal : ∀ c ∈ digits, c.isDigit) (few : digits.length ≤ 28)
    (fits : digitsFrom n digits < capacity) :
    readFrom negative ⟨n, 0, true, true⟩ digits =
      make? negative (digitsFrom n digits) digits.length := by
  have pointed : !true → (0 : Nat) ≠ 28 := nofun
  have behind : 0 + digits.length ≤ 28 := by omega
  have read : readFrom negative ⟨n, 0, true, true⟩ (digits ++ []) =
      readFrom negative (digits.foldl Reading.push ⟨n, 0, true, true⟩) [] :=
    readFrom_digits decimal pointed (fun _ => behind) fits []
  rw [List.append_nil, foldl_push] at read
  rw [read, readFrom]
  simp

theorem readFrom_text (d : Decimal) (negative : Bool) :
    readFrom negative ⟨0, 0, false, false⟩
      (d.wholeDigits ++ (if d.scale = 0 then [] else '.' :: d.fractionDigits)) =
      make? negative d.coefficient d.scale := by
  have parts := d.digitsFrom_parts
  have bound := d.coefficient_lt
  have grows := le_digitsFrom (digitsFrom 0 d.wholeDigits) d.fractionDigits
  rw [readFrom_whole digit_of_whole d.wholeDigits_ne_nil (by omega)]
  split
  · next none =>
    have empty : d.fractionDigits = [] := by
      rw [← List.length_eq_zero_iff, length_fractionDigits, none]
    rw [empty] at parts
    rw [readFrom, none, ← parts]
    rfl
  · have room : (0 : Nat) ≠ 28 := by decide
    have few : d.fractionDigits.length ≤ 28 := d.length_fractionDigits ▸ d.scale_le
    have point :
        readFrom negative ⟨digitsFrom 0 d.wholeDigits, 0, false, true⟩ ('.' :: d.fractionDigits) =
          readFrom negative ⟨digitsFrom 0 d.wholeDigits, 0, true, true⟩ d.fractionDigits :=
      readFrom_point room rfl _
    rw [point, readFrom_fraction digit_of_fraction few (by omega), parts, length_fractionDigits]

theorem readPlain?_unsigned {c : Char} (minus : c ≠ '-') (plus : c ≠ '+') (cs : List Char) :
    readPlain? (c :: cs) = readFrom false ⟨0, 0, false, false⟩ (c :: cs) := by
  unfold readPlain?
  split
  · next same =>
    cases same
    exact absurd rfl minus
  · next same =>
    cases same
    exact absurd rfl plus
  · rfl

theorem readPlain?_text (d : Decimal) : readPlain? d.text.toList = some d.unsigned := by
  rw [toList_text, ← make?_eq]
  cases sign : d.negative with
  | true => exact d.readFrom_text true
  | false =>
    have read := d.readFrom_text false
    obtain ⟨c, cs, whole⟩ := List.exists_cons_of_ne_nil d.wholeDigits_ne_nil
    have digit : c.isDigit := digit_of_whole c (by rw [whole]; exact List.mem_cons_self)
    rw [whole] at read ⊢
    rw [← read]
    apply readPlain?_unsigned
    · rintro rfl
      cases digit
    · rintro rfl
      cases digit

theorem visible_text (d : Decimal) : Visible d.text.toList := by
  have digits : Visible d.digits := d.numeral_digits.visible
  have whole : Visible d.wholeDigits := fun c member => digits c (List.mem_of_mem_take member)
  have fraction : Visible d.fractionDigits := fun c member => digits c (List.mem_of_mem_drop member)
  rw [toList_text]
  apply Visible.append
  · split
    · exact Visible.cons (by decide) nofun
    · exact nofun
  · apply whole.append
    split
    · exact nofun
    · exact fraction.cons (by decide)

theorem toDecimal_text (d : Decimal) : (Value.string d.text).toDecimal = .ok (some d.unsigned) := by
  have kept : trim d.text.toList = d.text.toList := trim_visible d.visible_text
  have read : Decimal.read? d.text.toList = some d.unsigned := by
    rw [read?, readPlain?_text]
    rfl
  rw [Value.toDecimal, readText, kept, read]
  rfl

theorem scale_roundTo_le (places : Nat) (d : Decimal) : (d.roundTo places).scale ≤ places := by
  rw [roundTo]
  split
  · assumption
  · exact Nat.le_refl places

theorem fit?_fitted {precision scale : Nat} {d fitted : Decimal}
    (fits : d.fit? precision scale = some fitted) :
    fitted.unsigned.fit? precision scale = some fitted.unsigned := by
  simp only [fit?, Option.ite_none_left_eq_some, Option.some.injEq] at fits
  obtain ⟨bound, rfl⟩ := fits
  have small : (d.roundTo scale).unsigned.scale ≤ scale := scale_roundTo_le scale d
  have settled : (d.roundTo scale).unsigned.roundTo scale = (d.roundTo scale).unsigned := by
    rw [roundTo, dif_pos small]
  rw [fit?, settled]
  exact if_neg bound

end RecordRows.Decimal
