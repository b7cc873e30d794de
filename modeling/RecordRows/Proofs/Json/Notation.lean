import RecordRows.Json.Number
import RecordRows.Json.Printer
import RecordRows.Proofs.Binary.Shortest
/-! The notation of JSON without white space, and that values are printed in it: strings with
their characters, integers with their digits, and doubles with a number to which no other double
is nearer. -/

namespace RecordRows.JsonValue

open Text

def letterEscapes : List (Char × Char) :=
  [('\x22', '\x22'), ('\x5c', '\x5c'), ('/', '/'), ('b', '\x08'), ('f', '\x0c'), ('n', '\n'),
   ('r', '\r'), ('t', '\t')]

inductive SpellsChar : Char → List Char → Prop
  | plain {c : Char} (printable : 0x20 ≤ c.toNat) (other : c ≠ '\x22' ∧ c ≠ '\x5c') :
    SpellsChar c [c]
  | letter {c letter : Char} (listed : (letter, c) ∈ letterEscapes) : SpellsChar c ['\x5c', letter]
  | unit {c : Char} {digits : List Char} (four : digits.length = 4)
      (value : digits.foldlM (fun n d => (hexValue? d).map (n * 16 + ·)) 0 = some c.toNat) :
      SpellsChar c ('\x5c' :: 'u' :: digits)

inductive SpellsChars : List Char → List Char → Prop
  | nil : SpellsChars [] []
  | cons {c : Char} {cs front back : List Char} (first : SpellsChar c front)
      (others : SpellsChars cs back) : SpellsChars (c :: cs) (front ++ back)

def SpellsString (s : String) (text : List Char) : Prop :=
  ∃ inner, SpellsChars s.toList inner ∧ text = '\x22' :: inner ++ ['\x22']

structure Whole (digits : List Char) : Prop where
  nonempty : digits ≠ []
  decimal : ∀ c ∈ digits, c.isDigit
  first : digits.head? ≠ some '0' ∨ digits.length = 1

inductive SpellsInteger : Int → List Char → Prop
  | plain {digits : List Char} (whole : Whole digits) : SpellsInteger (digitsValue digits) digits
  | minus {digits : List Char} (whole : Whole digits) (present : digitsValue digits ≠ 0) :
      SpellsInteger (-digitsValue digits) ('-' :: digits)

inductive SpellsFraction : Option (List Char) → List Char → Prop
  | none : SpellsFraction none []
  | some {digits : List Char} (nonempty : digits ≠ []) (decimal : ∀ c ∈ digits, c.isDigit) :
      SpellsFraction (some digits) ('.' :: digits)

inductive SpellsExponent : Option Int → List Char → Prop
  | none : SpellsExponent none []
  | unsigned {mark : Char} {n : Nat} {digits : List Char} (known : mark = 'e' ∨ mark = 'E')
      (numeral : Numeral n digits) : SpellsExponent (some n) (mark :: digits)
  | plus {mark : Char} {n : Nat} {digits : List Char} (known : mark = 'e' ∨ mark = 'E')
      (numeral : Numeral n digits) : SpellsExponent (some n) (mark :: '+' :: digits)
  | minus {mark : Char} {n : Nat} {digits : List Char} (known : mark = 'e' ∨ mark = 'E')
      (numeral : Numeral n digits) : SpellsExponent (some (-n)) (mark :: '-' :: digits)

/-- The text has the parts of the number one behind the other. -/
structure NumberText.Spells (t : NumberText) (text : List Char) : Prop where
  whole : Whole t.whole
  parts : ∃ fraction exponent, SpellsFraction t.fraction fraction ∧
    SpellsExponent t.exponent exponent ∧
    text = (if t.negative then ['-'] else []) ++ (t.whole ++ (fraction ++ exponent))

/-- The number that digits stand for, without their sign. -/
def NumberText.absolute (t : NumberText) : ℚ :=
  (digitsValue t.whole + digitsValue (t.fraction.getD []) / 10 ^ (t.fraction.getD []).length) *
    10 ^ t.exponent.getD 0

/-- All the digits as one number. -/
def NumberText.units (t : NumberText) : ℕ := digitsValue (t.whole ++ t.fraction.getD [])

/-- The power of ten that the last digit stands for. -/
def NumberText.place (t : NumberText) : ℤ := t.exponent.getD 0 - (t.fraction.getD []).length

theorem NumberText.absolute_eq (t : NumberText) : t.absolute = t.units * 10 ^ t.place := by
  have positive : (0 : ℚ) < 10 ^ (t.fraction.getD []).length := by positivity
  rw [absolute, units, place, digitsValue_append, sub_eq_add_neg, ten_zpow_add, zpow_neg,
    zpow_natCast, Nat.cast_add, Nat.cast_mul, cast_placeValue]
  field_simp

/-- A number with a point or an exponent stands for the double of its sign that is nearest to it. -/
structure NumberText.Denotes (t : NumberText) (x : Double) : Prop where
  marked : t.fraction.isSome ∨ t.exponent.isSome
  sign : t.negative = x.negative
  finite : x.isFinite
  nearest : x.Nearest t.absolute

def commas (texts : List (List Char)) : List Char := [','].intercalate texts

/-- The text of a value without white space, where `means` says which doubles numbers stand for. -/
inductive Spells (means : NumberText → Double → Prop) : JsonValue → List Char → Prop
  | null : Spells means null ['n', 'u', 'l', 'l']
  | bool (b : Bool) :
      Spells means (bool b) (if b then ['t', 'r', 'u', 'e'] else ['f', 'a', 'l', 's', 'e'])
  | integer {n : Int} {text : List Char} (spelled : SpellsInteger n text) :
    Spells means (integer n) text
  | double {x : Double} {t : NumberText} {text : List Char} (spelled : t.Spells text)
      (meant : means t x) : Spells means (double x) text
  | string {s : String} {text : List Char} (spelled : SpellsString s text) :
      Spells means (string s) text
  | array {items : List JsonValue} {texts : List (List Char)} (sized : items.length = texts.length)
      (each : ∀ item text, (item, text) ∈ items.zip texts → Spells means item text) :
      Spells means (array items) ('[' :: commas texts ++ [']'])
  | object {members : List (String × JsonValue)} {texts : List (List Char × List Char)}
      (sized : members.length = texts.length)
      (named : ∀ member text, (member, text) ∈ members.zip texts → SpellsString member.1 text.1)
      (each : ∀ member text, (member, text) ∈ members.zip texts → Spells means member.2 text.2) :
      Spells means (object members)
        ('\x7b' :: commas (texts.map fun text => text.1 ++ ':' :: text.2) ++ ['\x7d'])

section Strings

theorem spellsChar_escapeChar (c : Char) : SpellsChar c (escapeChar c) := by
  have unit : ∀ n < 0x20, n ≠ 0x22 →
      (['0', '0'] ++ (if n < 0x10 then ['0'] else []) ++ hexDigits n).length = 4 ∧
      (['0', '0'] ++ (if n < 0x10 then ['0'] else []) ++ hexDigits n).foldlM
        (fun n d => (hexValue? d).map (n * 16 + ·)) 0 = some n := by decide
  rw [escapeChar]
  split_ifs with quote slash line carriage tab back feed control short
  · subst quote
    exact .letter (by decide)
  · subst slash
    exact .letter (by decide)
  · subst line
    exact .letter (by decide)
  · subst carriage
    exact .letter (by decide)
  · subst tab
    exact .letter (by decide)
  · subst back
    exact .letter (by decide)
  · subst feed
    exact .letter (by decide)
  · obtain ⟨four, value⟩ := unit c.toNat control (by omega)
    rw [if_pos short] at four value
    exact .unit four value
  · obtain ⟨four, value⟩ := unit c.toNat control (by omega)
    rw [if_neg short] at four value
    exact .unit four value
  · exact .plain (Nat.le_of_not_lt control) ⟨quote, slash⟩

theorem spellsChars_flatMap (cs : List Char) : SpellsChars cs (cs.flatMap escapeChar) := by
  induction cs with
  | nil => exact .nil
  | cons c cs ih =>
    rw [List.flatMap_cons]
    exact .cons (spellsChar_escapeChar c) ih

theorem spellsString_stringChars (s : String) : SpellsString s (stringChars s) :=
  ⟨_, spellsChars_flatMap s.toList, rfl⟩

end Strings

theorem whole_natChars (n : Nat) : Whole (natChars n) where
  nonempty := natChars_ne_nil n
  decimal := natChars_digits n
  first := by
    rcases Nat.eq_zero_or_pos n with rfl | positive
    · exact .inr rfl
    · exact .inl (head_natChars positive)

theorem spellsInteger_intChars (n : Int) : SpellsInteger n (intChars n) := by
  rw [intChars]
  split
  · next negative =>
    have same : n = -(digitsValue (natChars n.natAbs) : Int) := by
      rw [digitsValue_natChars]
      omega
    conv => arg 1; rw [same]
    exact .minus (whole_natChars _) (by rw [digitsValue_natChars]; omega)
  · have same : n = (digitsValue (natChars n.natAbs) : Int) := by
      rw [digitsValue_natChars]
      omega
    conv => arg 1; rw [same]
    exact .plain (whole_natChars _)

end RecordRows.JsonValue

namespace RecordRows

open JsonValue Text

def Digits.number (negative : Bool) (d : Digits) : NumberText :=
  if -5 < d.point ∧ d.point ≤ 16 then
    if d.point ≤ 0 then
      ⟨negative, ['0'], some (List.replicate (-d.point).toNat '0' ++ d.digits), none⟩
    else if d.digits.length ≤ d.point then
      ⟨negative, d.digits ++ List.replicate (d.point.toNat - d.digits.length) '0', some ['0'], none⟩
    else ⟨negative, d.digits.take d.point.toNat, some (d.digits.drop d.point.toNat), none⟩
  else
    ⟨negative, d.digits.take 1, if d.digits.length = 1 then none else some (d.digits.drop 1),
      some (d.point - 1)⟩

section Digits

variable {d : Digits} {places : ℕ} {negative : Bool}

theorem Digits.Proper.whole_take (proper : d.Proper) (some : 0 < places) :
    Whole (d.digits.take places) := by
  obtain ⟨c, cs, parts⟩ := List.exists_cons_of_ne_nil proper.nonempty
  obtain ⟨n, rfl⟩ := Nat.exists_eq_succ_of_ne_zero some.ne'
  refine ⟨?_, fun c member => proper.decimal c (List.mem_of_mem_take member), .inl ?_⟩
  · rw [parts]
    exact List.cons_ne_nil _ _
  · have first := proper.first
    rw [parts] at first ⊢
    exact first

theorem Digits.absolute_number (proper : d.Proper) : (d.number negative).absolute = d.toRat := by
  have present : 0 < d.digits.length := List.length_pos_iff.mpr proper.nonempty
  rw [NumberText.absolute_eq, number, Digits.toRat]
  split
  · next middle =>
    split
    · next small =>
      congr 2
      · exact congrArg Nat.cast (digitsValue_padded (_ + 1) d.digits)
      · simp only [NumberText.place, Option.getD, List.length_append, List.length_replicate]
        omega
    · split
      · next whole =>
        obtain ⟨zeros, same⟩ : ∃ zeros : ℕ, d.point = d.digits.length + zeros :=
          ⟨(d.point - d.digits.length).toNat, by omega⟩
        have padding : d.point.toNat - d.digits.length = zeros := by omega
        have units : digitsValue (d.digits ++ List.replicate zeros '0' ++ ['0']) =
            digitsValue d.digits * placeValue (zeros + 1) := by
          rw [List.append_assoc, ← List.replicate_succ', digitsValue_append, digitsValue_zeros,
            List.length_replicate, Nat.add_zero]
        have place : d.point - d.digits.length = (zeros + 1 : ℕ) + -1 := by omega
        rw [NumberText.units, NumberText.place, Option.getD_some, padding, units, place,
          ten_zpow_add, Nat.cast_mul, cast_placeValue, zpow_natCast, ← mul_assoc]
        rfl
      · next inner =>
        congr 2
        · exact congrArg (Nat.cast ∘ digitsValue) (List.take_append_drop _ _)
        · simp only [NumberText.place, Option.getD, List.length_drop]
          omega
  · by_cases single : d.digits.length = 1
    · rw [if_pos single]
      congr 2
      · have whole : d.digits.take 1 = d.digits := List.take_of_length_le single.le
        rw [NumberText.units, Option.getD_none, List.append_nil, whole]
      · simp only [NumberText.place, Option.getD, List.length_nil]
        omega
    · rw [if_neg single]
      congr 2
      · exact congrArg (Nat.cast ∘ digitsValue) (List.take_append_drop _ _)
      · simp only [NumberText.place, Option.getD, List.length_drop]
        omega

theorem digit_of_replicate {zeros : ℕ} : ∀ c ∈ List.replicate zeros '0', c.isDigit := by
  intro c member
  rw [List.eq_of_mem_replicate member]
  rfl

theorem spellsExponent_point (point : ℤ) :
    SpellsExponent (some (point - 1))
      ('e' :: (if 0 < point then '+' else '-') :: natChars (point - 1).natAbs) := by
  have numeral := numeral_natChars (point - 1).natAbs
  split
  · have plus : SpellsExponent _ ('e' :: '+' :: _) := .plus (.inl rfl) numeral
    rwa [Int.natAbs_of_nonneg (by omega)] at plus
  · have minus : SpellsExponent _ ('e' :: '-' :: _) := .minus (.inl rfl) numeral
    rwa [Int.ofNat_natAbs_of_nonpos (by omega), neg_neg] at minus

theorem Digits.Proper.spells_scientific (proper : d.Proper) :
    NumberText.Spells
      ⟨negative, d.digits.take 1, if d.digits.length = 1 then none else some (d.digits.drop 1),
        some (d.point - 1)⟩
      ((if negative then ['-'] else []) ++
        (d.scientific ++ 'e' :: (if 0 < d.point then '+' else '-') ::
          natChars (d.point - 1).natAbs)) := by
  obtain ⟨c, cs, parts⟩ := List.exists_cons_of_ne_nil proper.nonempty
  have whole : Whole (d.digits.take 1) := proper.whole_take one_pos
  have exponent := spellsExponent_point d.point
  cases cs with
  | nil =>
    have single : d.digits.length = 1 := by rw [parts, List.length_singleton]
    rw [if_pos single]
    refine ⟨whole, [], _, .none, exponent, ?_⟩
    rw [scientific, parts]
    rfl
  | cons next others =>
    have more : d.digits.length ≠ 1 := by simp [parts]
    have rest : d.digits.drop 1 = next :: others := by rw [parts, List.drop_one, List.tail_cons]
    rw [if_neg more, rest]
    refine ⟨whole, _, _, .some (List.cons_ne_nil _ _) ?_, exponent, ?_⟩
    · exact fun c member => proper.decimal c (List.mem_of_mem_drop (rest ▸ member))
    · rw [scientific, parts]
      rfl

theorem Digits.spells_number (proper : d.Proper) :
    (d.number negative).Spells ((if negative then ['-'] else []) ++ d.jsonText) := by
  have present : 0 < d.digits.length := List.length_pos_iff.mpr proper.nonempty
  rw [number, jsonText]
  split
  · next middle =>
    rw [positional]
    split
    · next small =>
      have more : ¬(d.digits.length : ℤ) ≤ d.point := by omega
      rw [if_neg more, List.append_nil]
      have zero : Whole ['0'] := whole_natChars 0
      refine ⟨zero, _, [], .some ?_ ?_, .none, ?_⟩
      · exact List.append_ne_nil_of_right_ne_nil _ proper.nonempty
      · exact List.forall_mem_append.mpr ⟨digit_of_replicate, proper.decimal⟩
      · rw [List.append_nil]
        rfl
    · split
      · next whole =>
        refine ⟨⟨?_, ?_, .inl ?_⟩, _, [], .some (List.cons_ne_nil _ _) (by decide), .none, ?_⟩
        · exact List.append_ne_nil_of_left_ne_nil proper.nonempty _
        · exact List.forall_mem_append.mpr ⟨proper.decimal, digit_of_replicate⟩
        · rw [List.head?_append_of_ne_nil _ proper.nonempty]
          exact proper.first
        · rw [List.append_nil]
      · next inner =>
        have some : 0 < d.point.toNat := by omega
        refine ⟨proper.whole_take some, _, [], .some ?_ ?_, .none, ?_⟩
        · rw [ne_eq, List.drop_eq_nil_iff]
          omega
        · exact fun c member => proper.decimal c (List.mem_of_mem_drop member)
        · rw [List.append_nil, List.append_nil]
  · exact proper.spells_scientific

theorem Digits.marked_number (negative : Bool) (d : Digits) :
    (d.number negative).fraction.isSome ∨ (d.number negative).exponent.isSome := by
  unfold number
  split_ifs
  · exact .inl rfl
  · exact .inl rfl
  · exact .inl rfl
  · exact .inr rfl
  · exact .inr rfl

theorem Digits.negative_number (negative : Bool) (d : Digits) :
    (d.number negative).negative = negative := by
  unfold number
  split_ifs <;> rfl

end Digits

namespace Binary

def number (x : Double) : NumberText :=
  if x.magnitude = 0 then ⟨x.negative, ['0'], some ['0'], none⟩ else x.shortest.number x.negative

theorem spells_number {x : Double} (finite : x.isFinite) : x.number.Spells x.jsonText := by
  have whole : (!x.isFinite) = false := by rw [finite]; rfl
  rw [number, jsonText, whole, if_neg Bool.false_ne_true]
  split
  · have zero : Whole ['0'] := whole_natChars 0
    have point : SpellsFraction (some ['0']) ['.', '0'] := .some (List.cons_ne_nil _ _) (by decide)
    exact ⟨zero, _, _, point, .none, rfl⟩
  · next present => exact Digits.spells_number (shortest_spec present).1

theorem denotes_number {x : Double} (finite : x.isFinite) : x.number.Denotes x := by
  by_cases zero : x.magnitude = 0
  · have nothing : x.absolute = 0 := by rw [absolute_eq, zero, worth_zero]
    rw [number, if_pos zero]
    refine ⟨.inl rfl, rfl, finite, ?_⟩
    intro y _ other
    have none : (⟨x.negative, ['0'], some ['0'], none⟩ : NumberText).absolute = 0 := by
      simp [NumberText.absolute, digitsValue, digitValue]
    rw [nothing] at other ⊢
    rw [none, sub_self, abs_zero, zero_sub, abs_neg, abs_pos]
    exact .inl other
  · rw [number, if_neg zero]
    refine ⟨Digits.marked_number _ _, Digits.negative_number _ _, finite, ?_⟩
    rw [Digits.absolute_number (shortest_spec zero).1]
    exact nearest_shortest zero

end Binary

namespace JsonValue

inductive EachDouble (p : Double → Prop) : JsonValue → Prop
  | null : EachDouble p null
  | bool (b : Bool) : EachDouble p (bool b)
  | integer (n : Int) : EachDouble p (integer n)
  | double {x : Double} (own : p x) : EachDouble p (double x)
  | string (s : String) : EachDouble p (string s)
  | array {items : List JsonValue} (each : ∀ item ∈ items, EachDouble p item) :
    EachDouble p (array items)
  | object {members : List (String × JsonValue)}
      (each : ∀ member ∈ members, EachDouble p member.2) : EachDouble p (object members)

/-- Integers are longs and doubles are finite, also inside other values. -/
inductive Storable : JsonValue → Prop
  | null : Storable .null
  | bool (b : Bool) : Storable (.bool b)
  | integer {n : Int} (low : -9223372036854775808 ≤ n) (high : n ≤ 9223372036854775807) :
      Storable (.integer n)
  | double {x : Double} (finite : x.isFinite) : Storable (.double x)
  | string (s : String) : Storable (.string s)
  | array {items : List JsonValue} (each : ∀ item ∈ items, Storable item) : Storable (.array items)
  | object {members : List (String × JsonValue)} (each : ∀ member ∈ members, Storable member.2) :
      Storable (.object members)

theorem Storable.eachDouble {v : JsonValue} (storable : v.Storable) :
    v.EachDouble (·.isFinite) := by
  induction storable with
  | null => exact .null
  | bool b => exact .bool b
  | integer => exact .integer _
  | double finite => exact .double finite
  | string s => exact .string s
  | array _ ih => exact .array ih
  | object _ ih => exact .object ih

theorem EachDouble.imp {p q : Double → Prop} {v : JsonValue} (every : ∀ x, p x → q x)
    (each : v.EachDouble p) : v.EachDouble q := by
  induction each with
  | null => exact .null
  | bool b => exact .bool b
  | integer n => exact .integer n
  | double own => exact .double (every _ own)
  | string s => exact .string s
  | array _ ih => exact .array ih
  | object _ ih => exact .object ih

theorem EachDouble.and {p q : Double → Prop} {v : JsonValue} (first : v.EachDouble p)
    (second : v.EachDouble q) : v.EachDouble fun x => p x ∧ q x := by
  induction first with
  | null => exact .null
  | bool b => exact .bool b
  | integer n => exact .integer n
  | double own =>
    cases second with
    | double other => exact .double ⟨own, other⟩
  | string s => exact .string s
  | array _ ih =>
    cases second with
    | array others => exact .array fun item member => ih item member (others item member)
  | object _ ih =>
    cases second with
    | object others => exact .object fun member inside => ih member inside (others member inside)

theorem itemChars_eq (items : List JsonValue) : itemChars items = commas (items.map chars) := by
  induction items with
  | nil => rfl
  | cons item items ih =>
    cases items with
    | nil => simp [itemChars, commas]
    | cons next items =>
      rw [itemChars, ih]
      simp [commas, List.intercalate]

theorem memberChars_eq (members : List (String × JsonValue)) :
    memberChars members =
      commas (members.map fun member => stringChars member.1 ++ ':' :: member.2.chars) := by
  induction members with
  | nil => rfl
  | cons member members ih =>
    cases members with
    | nil => simp [memberChars, commas]
    | cons next members =>
      rw [memberChars, ih]
      simp [commas, List.intercalate]

theorem of_mem_zip_map {α β : Type} {f : α → β} {as : List α} {a : α} {b : β}
    (member : (a, b) ∈ as.zip (as.map f)) : a ∈ as ∧ b = f a := by
  rw [← List.map_prod_left_eq_zip, List.mem_map] at member
  obtain ⟨own, inside, same⟩ := member
  cases same
  exact ⟨inside, rfl⟩

theorem spells_chars {means : NumberText → Double → Prop} {v : JsonValue}
    (meant : v.EachDouble fun x => x.isFinite ∧ means x.number x) : Spells means v v.chars := by
  induction meant with
  | null => exact .null
  | bool b => cases b <;> exact .bool _
  | integer n => exact .integer (spellsInteger_intChars n)
  | double own => exact .double (Binary.spells_number own.1) own.2
  | string s => exact .string (spellsString_stringChars s)
  | @array items _ ih =>
    rw [chars, itemChars_eq]
    refine .array (List.length_map _).symm fun item text member => ?_
    obtain ⟨listed, rfl⟩ := of_mem_zip_map member
    exact ih item listed
  | @object members _ ih =>
    have texts : (members.map fun member => stringChars member.1 ++ ':' :: member.2.chars) =
        (members.map fun member => (stringChars member.1, member.2.chars)).map
          fun text => text.1 ++ ':' :: text.2 := by rw [List.map_map]; rfl
    rw [chars, memberChars_eq, texts]
    refine .object (List.length_map _).symm (fun member text inside => ?_)
      fun member text inside => ?_
    · obtain ⟨-, rfl⟩ := of_mem_zip_map inside
      exact spellsString_stringChars member.1
    · obtain ⟨listed, rfl⟩ := of_mem_zip_map inside
      exact ih member listed

end JsonValue

end RecordRows
