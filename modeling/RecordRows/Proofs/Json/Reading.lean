import RecordRows.Json.Reader
import RecordRows.Proofs.Json.Notation
import RecordRows.Proofs.Json.Sorted
import RecordRows.Proofs.Text.Runs
/-! Texts in the notation of JSON are read as the values that they spell, and so is what
is printed. -/

namespace RecordRows.JsonValue

open Text

/-- At most so many brackets stand inside one another. -/
inductive Shallow : Nat → JsonValue → Prop
  | null {levels : Nat} : Shallow levels null
  | bool {levels : Nat} (b : Bool) : Shallow levels (bool b)
  | integer {levels : Nat} (n : Int) : Shallow levels (integer n)
  | double {levels : Nat} (x : Double) : Shallow levels (double x)
  | string {levels : Nat} (s : String) : Shallow levels (string s)
  | array {levels : Nat} {items : List JsonValue} (each : ∀ item ∈ items, Shallow levels item) :
      Shallow (levels + 1) (array items)
  | object {levels : Nat} {members : List (String × JsonValue)}
      (each : ∀ member ∈ members, Shallow levels member.2) : Shallow (levels + 1) (object members)

def NumberText.Reads (t : NumberText) (x : Double) : Prop := t.value? = some (.double x)

/-- The text ends here, or goes on with what may stand behind a value. -/
def Closed (rest : List Char) : Prop := ∀ c ∈ rest.head?, c = ',' ∨ c = ']' ∨ c = '\x7d'

theorem Closed.cons {c : Char} (closes : c = ',' ∨ c = ']' ∨ c = '\x7d') (rest : List Char) :
    Closed (c :: rest) := by
  intro d first
  cases Option.mem_def.mp first
  exact closes

theorem skipSpace_cons {c : Char} (visible : isSpace c = false) (cs : List Char) :
    skipSpace (c :: cs) = c :: cs := by
  rw [skipSpace, List.dropWhile_cons, visible, if_neg Bool.false_ne_true]

section Strings

variable {cs inner rest : List Char}

theorem takeEscapedUnit_char {c : Char} {digits : List Char} (four : digits.length = 4)
    (value : digits.foldlM (fun n d => (hexValue? d).map (n * 16 + ·)) 0 = some c.toNat) :
    takeEscapedUnit (digits ++ rest) = some (c, rest) := by
  obtain ⟨w, x, y, z, rfl⟩ : ∃ w x y z, digits = [w, x, y, z] := by
    match digits, four with
    | [w, x, y, z], _ => exact ⟨w, x, y, z, rfl⟩
  have taken : takeUnit ([w, x, y, z] ++ rest) = some (c.toNat, rest) := by
    simp only [takeUnit, List.cons_append, List.nil_append, value, Option.map_some]
  have scalar :
      ¬(0xd800 ≤ c.toNat ∧ c.toNat ≤ 0xdbff) ∧ ¬(0xdc00 ≤ c.toNat ∧ c.toNat ≤ 0xdfff) := by
    have valid : c.toNat.isValidChar := c.valid
    unfold Nat.isValidChar at valid
    omega
  simp only [takeEscapedUnit, taken, bind, Option.bind, if_neg scalar.1, if_neg scalar.2,
    Char.ofNat_toNat]

theorem takeEscape_letter {c letter : Char} (listed : (letter, c) ∈ letterEscapes) :
    takeEscape (letter :: rest) = some (c, rest) := by
  simp only [letterEscapes, List.mem_cons, List.not_mem_nil, or_false, Prod.mk.injEq] at listed
  rcases listed with ⟨rfl, rfl⟩ | ⟨rfl, rfl⟩ | ⟨rfl, rfl⟩ | ⟨rfl, rfl⟩ | ⟨rfl, rfl⟩ | ⟨rfl, rfl⟩ |
    ⟨rfl, rfl⟩ | ⟨rfl, rfl⟩ <;> rfl

theorem length_le_of_spellsChars (spelled : SpellsChars cs inner) : cs.length ≤ inner.length := by
  induction spelled with
  | nil => exact Nat.le_refl _
  | cons first _ ih =>
    rw [List.length_cons, List.length_append]
    cases first <;> simp only [List.length_cons] <;> omega

theorem readStringWithin_spelled (spelled : SpellsChars cs inner) {bound : Nat}
    (enough : cs.length < bound) :
    readStringWithin bound (inner ++ '\x22' :: rest) = some (cs, rest) := by
  induction spelled generalizing bound with
  | nil =>
    obtain ⟨bound, rfl⟩ := Nat.exists_eq_succ_of_ne_zero (Nat.ne_of_gt enough)
    rfl
  | @cons c cs front back first _ ih =>
    obtain ⟨bound, rfl⟩ := Nat.exists_eq_succ_of_ne_zero (Nat.ne_of_gt (Nat.zero_lt_of_lt enough))
    have others := ih (Nat.lt_of_succ_lt_succ enough)
    rw [List.append_assoc]
    cases first with
    | plain printable other =>
      rw [List.singleton_append, readStringWithin]
      simp only [if_neg other.1, if_neg other.2, if_neg (Nat.not_lt.mpr printable), others,
        Option.map_some]
    | letter listed =>
      simp only [List.cons_append, List.nil_append, readStringWithin,
        takeEscape_letter listed, others, Option.bind_some, Option.map_some]
      rfl
    | unit four value =>
      simp only [List.cons_append, readStringWithin, takeEscape,
        takeEscapedUnit_char four value, others, Option.bind_some, Option.map_some]
      rfl

theorem readString_spelled {s : String} (spelled : SpellsChars s.toList inner) :
    readString (inner ++ '\x22' :: rest) = some (s, rest) := by
  have bound := length_le_of_spellsChars spelled
  have enough : s.toList.length < (inner ++ '\x22' :: rest).length := by
    rw [List.length_append, List.length_cons]
    omega
  rw [readString, readStringWithin_spelled spelled enough]
  exact congrArg (fun s => some (s, rest)) String.ofList_toList

end Strings

section Numbers

variable {t : NumberText} {n : Int} {digits text rest : List Char}

theorem Closed.outside (closed : Closed rest) :
    ∀ c ∈ rest.head?, c.isDigit = false ∧ c ≠ '.' ∧ c ≠ 'e' ∧ c ≠ 'E' := by
  intro c first
  rcases closed c first with rfl | rfl | rfl <;> decide

theorem takeDigits_run (nonempty : digits ≠ []) (decimal : ∀ c ∈ digits, c.isDigit)
    (stops : ∀ c ∈ rest.head?, c.isDigit = false) :
    takeDigits (digits ++ rest) = some (digits, rest) := by
  have present : digits.isEmpty = false := List.isEmpty_eq_false_iff.mpr nonempty
  simp only [takeDigits, takeWhile_run decimal stops, dropWhile_run decimal stops, present]
  rfl

theorem takeWhole_run (whole : Whole digits) (stops : ∀ c ∈ rest.head?, c.isDigit = false) :
    takeWhole (digits ++ rest) = some (digits, rest) := by
  rw [takeWhole, takeDigits_run whole.nonempty whole.decimal stops, Option.filter_some, if_pos]
  exact decide_eq_true whole.first

theorem takeExponentDigits_run {n : Nat} (numeral : Numeral n digits)
    (stops : ∀ c ∈ rest.head?, c.isDigit = false) (sign : Int) :
    takeExponentDigits sign (digits ++ rest) = some (some (sign * n), rest) := by
  rw [takeExponentDigits, takeDigits_run numeral.1 numeral.2.1 stops]
  exact congrArg (fun n : Nat => some (some (sign * n), rest)) numeral.2.2

theorem takeExponent_spelled {exponent : Option Int} (spelled : SpellsExponent exponent text)
    (closed : Closed rest) : takeExponent (text ++ rest) = some (exponent, rest) := by
  have stops : ∀ c ∈ rest.head?, c.isDigit = false := fun c first => (closed.outside c first).1
  cases spelled with
  | none =>
    cases rest with
    | nil => rfl
    | cons c rest =>
      have other := (closed.outside c rfl).2.2
      simp only [List.nil_append, takeExponent, if_neg (not_or.mpr other)]
  | @unsigned mark n digits known numeral =>
    obtain ⟨c, cs, parts⟩ := List.exists_cons_of_ne_nil numeral.1
    have digit : c.isDigit := numeral.2.1 c (parts ▸ List.mem_cons_self)
    have taken := takeExponentDigits_run numeral stops 1
    rw [parts, Int.one_mul] at taken
    rw [parts, List.cons_append, List.cons_append, takeExponent, if_pos known]
    · exact taken
    · rintro _ ⟨⟩
      cases digit
    · rintro _ ⟨⟩
      cases digit
  | plus known numeral =>
    have taken := takeExponentDigits_run numeral stops 1
    rw [Int.one_mul] at taken
    simp only [List.cons_append, takeExponent, if_pos known, taken]
  | minus known numeral =>
    have taken := takeExponentDigits_run numeral stops (-1)
    rw [Int.neg_one_mul] at taken
    simp only [List.cons_append, takeExponent, if_pos known, taken]

theorem SpellsExponent.outside {exponent : Option Int} (spelled : SpellsExponent exponent text)
    (closed : Closed rest) : ∀ c ∈ (text ++ rest).head?, c.isDigit = false ∧ c ≠ '.' := by
  have mark {c : Char} (known : c = 'e' ∨ c = 'E') : c.isDigit = false ∧ c ≠ '.' := by
    rcases known with rfl | rfl <;> decide
  intro c first
  cases spelled with
  | none => exact ⟨(closed.outside c first).1, (closed.outside c first).2.1⟩
  | unsigned known | plus known | minus known =>
    cases Option.mem_def.mp first
    exact mark known

theorem takeFraction_spelled {fraction : Option (List Char)}
    (spelled : SpellsFraction fraction text)
    (outside : ∀ c ∈ rest.head?, c.isDigit = false ∧ c ≠ '.') :
    takeFraction (text ++ rest) = some (fraction, rest) := by
  cases spelled with
  | none =>
    rw [List.nil_append]
    unfold takeFraction
    split
    · exact absurd rfl (outside '.' rfl).2
    · rfl
  | some nonempty decimal =>
    rw [List.cons_append, takeFraction,
      takeDigits_run nonempty decimal fun c first => (outside c first).1, Option.map_some]

theorem takeNumberText_spelled (spelled : t.Spells text) (closed : Closed rest) :
    takeNumberText (text ++ rest) = some (t, rest) := by
  obtain ⟨whole, fraction, exponent, pointed, raised, rfl⟩ := spelled
  obtain ⟨negative, digits, ownFraction, ownExponent⟩ := t
  dsimp only at whole pointed raised
  have outside := raised.outside closed
  have stops : ∀ c ∈ (fraction ++ (exponent ++ rest)).head?, c.isDigit = false := by
    intro c first
    cases pointed with
    | none => exact (outside c first).1
    | some => cases Option.mem_def.mp first; decide
  have body := takeWhole_run whole stops
  have pointTaken := takeFraction_spelled pointed outside
  have raisedTaken := takeExponent_spelled raised closed
  have unsigned : (digits ++ (fraction ++ (exponent ++ rest))).head? ≠ some '-' := by
    obtain ⟨c, cs, parts⟩ := List.exists_cons_of_ne_nil whole.nonempty
    have digit : c.isDigit := whole.decimal c (parts ▸ List.mem_cons_self)
    rw [parts, List.cons_append, List.head?_cons]
    rintro ⟨⟩
    cases digit
  simp only [List.append_assoc]
  cases negative with
  | true => simp [takeNumberText, body, pointTaken, raisedTaken]
  | false =>
    simp only [takeNumberText, Bool.false_eq_true, if_false, List.nil_append, unsigned,
      decide_false, body, pointTaken, raisedTaken, bind, Option.bind, pure]

theorem spells_of_spellsInteger (spelled : SpellsInteger n text) :
    ∃ t : NumberText, t.Spells text ∧ t.fraction = none ∧ t.exponent = none ∧
      (-9223372036854775808 ≤ n → n ≤ 9223372036854775807 → t.value? = some (integer n)) := by
  cases spelled with
  | plain whole =>
    refine ⟨⟨false, text, none, none⟩, ⟨whole, [], [], .none, .none, by simp⟩, rfl, rfl,
      fun _ high => ?_⟩
    have small : ¬UInt64.size ≤ digitsValue text := by
      unfold UInt64.size
      omega
    simp [NumberText.value?, small]
  | @minus digits whole present =>
    refine ⟨⟨true, digits, none, none⟩, ⟨whole, [], [], .none, .none, by simp⟩, rfl, rfl,
      fun low _ => ?_⟩
    have small : ¬UInt64.size ≤ digitsValue digits := by
      unfold UInt64.size
      omega
    have inside : ¬(digitsValue digits = 0 ∨ 9223372036854775808 < digitsValue digits) := by omega
    simp [NumberText.value?, small, inside]

theorem readNumber_spelled {v : JsonValue} (spelled : t.Spells text) (closed : Closed rest)
    (valued : t.value? = some v) : readNumber (text ++ rest) = some (v, rest) := by
  simp only [readNumber, takeNumberText_spelled spelled closed, Option.bind_some, valued,
    Option.map_some]

theorem NumberText.Spells.first (spelled : t.Spells text) :
    ∃ c cs, text = c :: cs ∧ (c = '-' ∨ c.isDigit) := by
  obtain ⟨whole, fraction, exponent, -, -, rfl⟩ := spelled
  obtain ⟨c, cs, parts⟩ := List.exists_cons_of_ne_nil whole.nonempty
  cases t.negative with
  | true => exact ⟨'-', _, rfl, .inl rfl⟩
  | false =>
    have digit : c.isDigit := whole.decimal c (parts ▸ List.mem_cons_self)
    rw [parts]
    exact ⟨c, _, rfl, .inr digit⟩

end Numbers

section Values

variable {means : NumberText → Double → Prop} {v : JsonValue} {text rest : List Char} {c : Char}

theorem isSpace_number (first : c = '-' ∨ c.isDigit) : isSpace c = false := by
  rcases first with rfl | digit
  · decide
  · have range := digit_range digit
    have space : c ≠ ' ' ∧ c ≠ '\t' ∧ c ≠ '\r' ∧ c ≠ '\n' := by
      refine ⟨?_, ?_, ?_, ?_⟩ <;> rintro rfl <;> exact absurd range (by decide)
    simp [isSpace, space]

theorem ne_of_first {d : Char} (first : c = '-' ∨ c.isDigit) (minus : d ≠ '-')
    (digit : ¬ d.isDigit) : c ≠ d := by
  rintro rfl
  exact first.elim minus digit

theorem readScalar_number (first : c = '-' ∨ c.isDigit) (cs : List Char) :
    readScalar (c :: cs) = readNumber (c :: cs) := by
  unfold readScalar
  split
  all_goals first
    | rfl
    | next same =>
      cases same
      rcases first with minus | digit
      · cases minus
      · cases digit

theorem readWithin_scalar (visible : isSpace c = false) (other : c ≠ '[' ∧ c ≠ '\x7b')
    (levels : Nat) (cs : List Char) : readWithin levels (c :: cs) = readScalar (c :: cs) := by
  cases levels with
  | zero => rw [readWithin, skipSpace_cons visible]
  | succ levels =>
    rw [readWithin, skipSpace_cons visible]
    split
    · next same => exact absurd (List.cons.inj same).1 other.1
    · next same => exact absurd (List.cons.inj same).1 other.2
    · rfl

theorem readWithin_number {t : NumberText} (spelled : t.Spells text) (closed : Closed rest)
    (valued : t.value? = some v) (levels : Nat) :
    readWithin levels (text ++ rest) = some (v, rest) := by
  rw [← readNumber_spelled spelled closed valued]
  obtain ⟨c, cs, rfl, first⟩ := spelled.first
  have other : c ≠ '[' ∧ c ≠ '\x7b' :=
    ⟨ne_of_first first (by decide) (by decide), ne_of_first first (by decide) (by decide)⟩
  rw [List.cons_append, readWithin_scalar (isSpace_number first) other, readScalar_number first]

theorem Spells.first (spelled : Spells means v text) :
    ∃ c cs, text = c :: cs ∧ isSpace c = false ∧ c ≠ ']' := by
  have number {t : NumberText} {text : List Char} (spelled : t.Spells text) :
      ∃ c cs, text = c :: cs ∧ isSpace c = false ∧ c ≠ ']' := by
    obtain ⟨c, cs, rfl, first⟩ := spelled.first
    exact ⟨c, cs, rfl, isSpace_number first, ne_of_first first (by decide) (by decide)⟩
  cases spelled with
  | null | array | object => exact ⟨_, _, rfl, by decide, by decide⟩
  | bool b => cases b <;> exact ⟨_, _, rfl, by decide, by decide⟩
  | integer spelled =>
    obtain ⟨t, own, -⟩ := spells_of_spellsInteger spelled
    exact number own
  | double spelled => exact number spelled
  | string spelled =>
    obtain ⟨inner, -, rfl⟩ := spelled
    exact ⟨_, _, rfl, by decide, by decide⟩

end Values

section Parts

variable {α : Type} {part : Reader α} {closing : Char} {as : List α} {texts : List (List Char)}

theorem commas_cons_cons (first second : List Char) (texts : List (List Char)) :
    commas (first :: second :: texts) = first ++ ',' :: commas (second :: texts) := by
  simp [commas, List.intercalate]

theorem length_le_commas (texts : List (List Char)) : texts.length ≤ (commas texts).length + 1 := by
  induction texts with
  | nil => exact Nat.zero_le _
  | cons first texts ih =>
    cases texts with
    | nil => exact Nat.le_add_left _ _
    | cons second texts =>
      rw [commas_cons_cons, List.length_append, List.length_cons (a := first),
        List.length_cons (a := ',')]
      omega

def ReadsParts (part : Reader α) (as : List α) (texts : List (List Char)) : Prop :=
  ∀ a text, (a, text) ∈ as.zip texts → ∀ rest, Closed rest → part (text ++ rest) = some (a, rest)

theorem readParts_commas (closes : closing = ']' ∨ closing = '\x7d')
    (sized : as.length = texts.length) (reads : ReadsParts part as texts) (nonempty : as ≠ [])
    {bound : Nat} (enough : as.length ≤ bound) (rest : List Char) :
    readParts part closing bound (commas texts ++ closing :: rest) = some (as, rest) := by
  have visible : isSpace closing = false := by rcases closes with rfl | rfl <;> decide
  induction as generalizing texts bound with
  | nil => exact absurd rfl nonempty
  | cons a as ih =>
    obtain ⟨bound, rfl⟩ := Nat.exists_eq_succ_of_ne_zero (Nat.ne_of_gt (Nat.zero_lt_of_lt enough))
    obtain ⟨text, texts, rfl⟩ := List.exists_cons_of_length_eq_add_one sized.symm
    have own := reads a text List.mem_cons_self
    cases as with
    | nil =>
      have alone : texts = [] := List.eq_nil_of_length_eq_zero (Nat.succ.inj sized).symm
      have taken := own (closing :: rest) (.cons (.inr closes) rest)
      have single : commas [text] = text := by simp [commas]
      rw [alone, single, readParts, taken]
      simp only [Option.bind_some, skipSpace_cons visible, if_pos]
    | cons b as =>
      obtain ⟨second, texts, rfl⟩ :=
        List.exists_cons_of_length_eq_add_one (Nat.succ.inj sized).symm
      have later := ih (Nat.succ.inj sized)
        (fun a text member => reads a text (List.mem_cons_of_mem _ member)) (List.cons_ne_nil _ _)
        (Nat.le_of_succ_le_succ enough)
      have taken := own (',' :: (commas (second :: texts) ++ closing :: rest)) (.cons (.inl rfl) _)
      have other : ',' ≠ closing := by rcases closes with rfl | rfl <;> decide
      rw [commas_cons_cons, List.append_assoc, List.cons_append, readParts, taken]
      simp only [Option.bind_some, skipSpace_cons (by decide : isSpace ',' = false),
        if_neg other, later, Option.map_some, if_pos]

theorem readEnclosed_commas (closes : closing = ']' ∨ closing = '\x7d')
    (sized : as.length = texts.length) (reads : ReadsParts part as texts)
    (first : ∀ text ∈ texts, ∃ c cs, text = c :: cs ∧ isSpace c = false ∧ c ≠ closing)
    (rest : List Char) :
    readEnclosed part closing (commas texts ++ closing :: rest) = some (as, rest) := by
  have visible : isSpace closing = false := by rcases closes with rfl | rfl <;> decide
  cases texts with
  | nil =>
    have none : as = [] := List.eq_nil_of_length_eq_zero sized
    rw [none]
    simp [commas, readEnclosed, skipSpace_cons visible]
  | cons text texts =>
    obtain ⟨c, cs, rfl, shown, other⟩ := first text List.mem_cons_self
    have nonempty : as ≠ [] := List.ne_nil_of_length_eq_add_one sized
    have bound := length_le_commas ((c :: cs) :: texts)
    have enough : as.length ≤ (commas ((c :: cs) :: texts) ++ closing :: rest).length := by
      simp only [List.length_append, List.length_cons] at bound sized ⊢
      omega
    have parts := readParts_commas closes sized reads nonempty enough rest
    obtain ⟨others, begins⟩ : ∃ others, commas ((c :: cs) :: texts) = c :: others := by
      cases texts with
      | nil => exact ⟨cs, by simp [commas]⟩
      | cons second texts => exact ⟨_, commas_cons_cons _ _ _⟩
    rw [readEnclosed, ← parts, begins, List.cons_append, skipSpace_cons shown]
    exact if_neg other

end Parts

section Whole

variable {v : JsonValue} {text rest : List Char}

theorem readScalar_string {s : String} (spelled : SpellsString s text) :
    readScalar (text ++ rest) = some (string s, rest) := by
  obtain ⟨inner, chars, rfl⟩ := spelled
  simp only [List.cons_append, List.append_assoc, List.nil_append, readScalar,
    readString_spelled chars, Option.map_some]

theorem readMember_spelled {value : Reader JsonValue} {name : String} {named valued : List Char}
    (spelled : SpellsString name named) (taken : value (valued ++ rest) = some (v, rest)) :
    readMember value (named ++ ':' :: (valued ++ rest)) = some ((name, v), rest) := by
  obtain ⟨inner, chars, rfl⟩ := spelled
  simp only [List.cons_append, List.append_assoc, List.nil_append, readMember,
    skipSpace_cons (by decide : isSpace '\x22' = false), readString_spelled chars,
    skipSpace_cons (by decide : isSpace ':' = false), taken, bind, Option.bind, pure]

theorem exists_mem_zip {α β : Type} {as : List α} {bs : List β}
    (sized : as.length = bs.length) {b : β} (member : b ∈ bs) : ∃ a, (a, b) ∈ as.zip bs := by
  rw [← List.map_snd_zip (Nat.le_of_eq sized.symm), List.mem_map] at member
  obtain ⟨⟨a, own⟩, paired, rfl⟩ := member
  exact ⟨a, paired⟩

theorem readWithin_array {levels : Nat} {items : List JsonValue} {texts : List (List Char)}
    (sized : items.length = texts.length) (reads : ReadsParts (readWithin levels) items texts)
    (first : ∀ item text, (item, text) ∈ items.zip texts →
      ∃ c cs, text = c :: cs ∧ isSpace c = false ∧ c ≠ ']') :
    readWithin (levels + 1) ('[' :: commas texts ++ [']'] ++ rest) = some (array items, rest) := by
  have begins : ∀ text ∈ texts, ∃ c cs, text = c :: cs ∧ isSpace c = false ∧ c ≠ ']' := by
    intro text listed
    obtain ⟨item, member⟩ := exists_mem_zip sized listed
    exact first item text member
  have enclosed := readEnclosed_commas (.inl rfl) sized reads begins rest
  simp only [List.cons_append, List.append_assoc, List.nil_append, readWithin,
    skipSpace_cons (by decide : isSpace '[' = false), enclosed, Option.map_some]

theorem readWithin_object {levels : Nat} {members : List (String × JsonValue)}
    {texts : List (List Char × List Char)} (ascending : Ascending members)
    (sized : members.length = texts.length)
    (named : ∀ member text, (member, text) ∈ members.zip texts → SpellsString member.1 text.1)
    (reads : ∀ member text, (member, text) ∈ members.zip texts → ∀ rest, Closed rest →
      readWithin levels (text.2 ++ rest) = some (member.2, rest)) :
    readWithin (levels + 1)
        ('\x7b' :: commas (texts.map fun text => text.1 ++ ':' :: text.2) ++ ['\x7d'] ++ rest) =
      some (object members, rest) := by
  have parts : ReadsParts (readMember (readWithin levels)) members
      (texts.map fun text => text.1 ++ ':' :: text.2) := by
    intro member whole inside rest closed
    rw [List.zip_map_right, List.mem_map] at inside
    obtain ⟨⟨own, text⟩, paired, ⟨⟩⟩ := inside
    rw [List.append_assoc, List.cons_append]
    exact readMember_spelled (named own text paired) (reads own text paired rest closed)
  have begins : ∀ text ∈ texts.map (fun text => text.1 ++ ':' :: text.2),
      ∃ c cs, text = c :: cs ∧ isSpace c = false ∧ c ≠ '\x7d' := by
    intro whole listed
    obtain ⟨text, present, rfl⟩ := List.mem_map.mp listed
    obtain ⟨member, paired⟩ := exists_mem_zip sized present
    obtain ⟨inner, -, first⟩ := named member text paired
    rw [first]
    exact ⟨_, _, rfl, by decide, by decide⟩
  have enclosed := readEnclosed_commas (.inr rfl)
    (sized.trans (List.length_map _).symm) parts begins rest
  simp only [List.cons_append, List.append_assoc, List.nil_append, readWithin,
    skipSpace_cons (by decide : isSpace '\x7b' = false), enclosed, Option.map_some,
    sortMembers_of_ascending ascending]

theorem readWithin_spelled {levels : Nat} (shallow : v.Shallow levels) (sorted : v.Sorted)
    (storable : v.Storable) (spelled : Spells NumberText.Reads v text) (closed : Closed rest) :
    readWithin levels (text ++ rest) = some (v, rest) := by
  induction shallow generalizing text rest with
  | null =>
    cases spelled
    exact readWithin_scalar (by decide) (by decide) _ ('u' :: 'l' :: 'l' :: rest)
  | bool b =>
    cases spelled
    cases b with
    | true => exact readWithin_scalar (by decide) (by decide) _ ('r' :: 'u' :: 'e' :: rest)
    | false => exact readWithin_scalar (by decide) (by decide) _ ('a' :: 'l' :: 's' :: 'e' :: rest)
  | integer n =>
    cases storable with
    | integer low high =>
      cases spelled with
      | integer spelled =>
        obtain ⟨t, own, -, -, valued⟩ := spells_of_spellsInteger spelled
        exact readWithin_number own closed (valued low high) _
  | double x =>
    cases spelled with
    | double spelled meant => exact readWithin_number spelled closed meant _
  | string s =>
    cases spelled with
    | string spelled =>
      rw [← readScalar_string spelled]
      obtain ⟨inner, -, rfl⟩ := spelled
      exact readWithin_scalar (by decide) (by decide) _ _
  | array each ih =>
    cases sorted with
    | array sorted =>
      cases storable with
      | array storable =>
        cases spelled with
        | array sized spelled =>
          refine readWithin_array sized (fun item text member rest closed => ?_)
            (fun item text member => (spelled item text member).first)
          have listed := (List.of_mem_zip member).1
          exact ih item listed (sorted item listed) (storable item listed)
            (spelled item text member) closed
  | object each ih =>
    cases sorted with
    | object ascending sorted =>
      cases storable with
      | object storable =>
        cases spelled with
        | object sized named spelled =>
          refine readWithin_object ascending sized named fun own text member rest closed => ?_
          have listed := (List.of_mem_zip member).1
          exact ih own listed (sorted own listed) (storable own listed)
            (spelled own text member) closed

/-- What is written in the notation is read as its value. -/
theorem read?_spelled (shallow : v.Shallow maxLevels) (sorted : v.Sorted) (storable : v.Storable)
    (spelled : Spells NumberText.Reads v text) : read? text = some v := by
  have ends : Closed [] := nofun
  have read := readWithin_spelled shallow sorted storable spelled ends
  rw [List.append_nil] at read
  rw [read?, read]
  rfl

/-- What is printed is read as the value that it was printed for, if that is so of each double. -/
theorem read?_text (shallow : v.Shallow maxLevels) (sorted : v.Sorted) (storable : v.Storable)
    (kept : v.EachDouble fun x => x.number.Reads x) : read? v.text.toList = some v := by
  apply read?_spelled shallow sorted storable
  rw [JsonValue.text, String.toList_ofList]
  exact spells_chars (storable.eachDouble.and kept)

end Whole

end RecordRows.JsonValue
