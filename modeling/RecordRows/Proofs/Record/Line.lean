import RecordRows.Proofs.Text.OneLine
import RecordRows.Proofs.Text.Runs
import RecordRows.Record.Outline
/-! The lines of an outline: what stands on a line tells how far inside it is, its label and all of
its type. -/

namespace RecordRows

open Text

section Indentation

theorem toList_indented (indent : Nat) (line : String) :
    (indented indent line).toList = List.replicate indent ' ' ++ line.toList := by
  rw [indented, String.toList_append, String.toList_ofList]

theorem indented_injective {indent : Nat} {line other : String}
    (same : indented indent line = indented indent other) : line = other := by
  have texts := congrArg String.toList same
  rw [toList_indented, toList_indented] at texts
  exact String.toList_inj.mp (List.append_cancel_left texts)

def depth (line : String) : Nat := (line.toList.takeWhile (· == ' ')).length

theorem depth_indented {line : String} (starts : ∀ c ∈ line.toList.head?, c ≠ ' ') (indent : Nat) :
    depth (indented indent line) = indent := by
  have spaces : ∀ c ∈ List.replicate indent ' ', (c == ' ') = true := by
    intro c member
    rw [List.eq_of_mem_replicate member]
    rfl
  have other : ∀ c ∈ line.toList.head?, (c == ' ') = false := by
    intro c first
    exact beq_eq_false_iff_ne.mpr (starts c first)
  rw [depth, toList_indented, takeWhile_run spaces other, List.length_replicate]

end Indentation

section Labels

def isNameChar (c : Char) : Bool := c.isAlphanum || c == '_'

def legibleName (name : String) : Bool := name.toList.all isNameChar

theorem label_unique {label other : String} {back rest : List Char} (named : legibleName label)
    (called : legibleName other)
    (same : label.toList ++ ':' :: back = other.toList ++ ':' :: rest) :
    label = other ∧ back = rest := by
  -- A label reaches to the first colon.
  have colon {tail : List Char} : ∀ c ∈ (':' :: tail).head?, isNameChar c = false := by
    intro c member
    cases member
    rfl
  obtain ⟨labels, behind⟩ := run_unique (List.all_eq_true.mp named) (List.all_eq_true.mp called)
    colon colon same
  exact ⟨String.toList_inj.mp labels, (List.cons.inj behind).2⟩

theorem depth_label {label line : String} {behind : List Char} (named : legibleName label)
    (starts : line.toList = label.toList ++ ':' :: behind) (indent : Nat) :
    depth (indented indent line) = indent := by
  apply depth_indented
  intro c first
  rw [starts] at first
  rintro rfl
  cases chars : label.toList with
  | nil =>
    rw [chars] at first
    cases first
  | cons d ds =>
    rw [chars] at first
    cases first
    have letter := List.all_eq_true.mp named ' ' (by rw [chars]; exact List.mem_cons_self)
    exact absurd letter (by decide)

end Labels

section Types

/-- A format stands on one line and has no quotation mark. -/
def legibleFormat (format : String) : Bool := format.toList.all fun c => c != '"' && c != '\n'

theorem legibleFormat_char {format : String} (legible : legibleFormat format) :
    ∀ c ∈ format.toList, (c != '"') = true ∧ (c != '\n') = true :=
  fun c member => Bool.and_eq_true_iff.mp (List.all_eq_true.mp legible c member)

namespace DataType

def places : DataType → Option (Nat × Nat)
  | decimal precision scale => some (precision, scale)
  | _ => none

theorem eq_of_parts {type other : DataType} (primitive : type.isPrimitive)
    (simple : other.isPrimitive) (name : type.name = other.name)
    (places : type.places = other.places)
    (format : type.format = other.format) : type = other := by
  cases type <;> cases other
    <;> simp_all [isPrimitive, DataType.name, DataType.places, DataType.format]

theorem name_letters (type : DataType) : ∀ c ∈ type.name.toList, c.isAlpha := by
  cases type <;> (rw [DataType.name]; decide)

end DataType

def placesChars : Option (Nat × Nat) → List Char
  | none => []
  | some (precision, scale) => '(' :: natChars precision ++ ',' :: natChars scale ++ [')']

def formatChars : Option String → List Char
  | none => []
  | some format => ", format: \"".toList ++ format.toList ++ ['"']

def closingChars : Option Bool → List Char
  | none => " \x7d".toList
  | some nullable => (", nullable: " ++ boolText nullable ++ " \x7d").toList

def detailChars (type : DataType) (nullable : Option Bool) : List Char :=
  placesChars type.places ++ (formatChars type.format ++ closingChars nullable)

theorem toList_title (type : DataType) :
    type.title.toList = type.name.toList ++ placesChars type.places := by
  cases type with
  | decimal precision scale =>
    simp [DataType.title, DataType.name, DataType.places, placesChars, natText]
  | _ => exact (List.append_nil _).symm

theorem toList_primitiveLine (label : String) (type : DataType) (nullable : Option Bool) :
    (primitiveLine label type nullable).toList =
      label.toList ++ (": \x7b type: ".toList ++
        (type.name.toList ++ detailChars type nullable)) := by
  have formats : ((type.format.map fun format => ", format: \"" ++ format ++ "\"").getD "").toList =
      formatChars type.format := by
    cases type.format with
    | none => rfl
    | some format =>
      have parts : (", format: \"" ++ format ++ "\"").toList = formatChars (some format) := by
        rw [String.toList_append, String.toList_append]
        rfl
      exact parts
  have closing :
      ((nullable.map fun nullable => ", nullable: " ++ boolText nullable).getD "").toList ++
      " \x7d".toList = closingChars nullable := by
    cases nullable with
    | none => rfl
    | some nullable => exact (String.toList_append ..).symm
  simp only [primitiveLine, String.toList_append, toList_title, formats, List.append_assoc, closing,
    detailChars]

theorem boolText_injective {a b : Bool} (same : boolText a = boolText b) : a = b := by
  cases a <;> cases b <;> first | rfl | exact absurd same (by decide)

theorem closingChars_injective {nullable other : Option Bool}
    (same : closingChars nullable = closingChars other) : nullable = other := by
  match nullable, other with
  | none, none => rfl
  | none, some b => cases b <;> exact absurd same (by decide)
  | some b, none => cases b <;> exact absurd same (by decide)
  | some a, some b =>
    have flags := (String.append_left_inj _).mp (String.toList_inj.mp same)
    rw [boolText_injective ((String.append_right_inj _).mp flags)]

theorem formatChars_some (format : String) (back : List Char) :
    formatChars (some format) ++ back =
      ", format: \"".toList ++ (format.toList ++ '"' :: back) := by
  have mark : ['"'] ++ back = '"' :: back := rfl
  rw [← mark, ← List.append_assoc, ← List.append_assoc]
  rfl

theorem formatChars_third (format : String) (back : List Char) :
    (formatChars (some format) ++ back)[2]? = some 'f' := rfl

theorem formatChars_third_of_none (nullable : Option Bool) :
    (formatChars none ++ closingChars nullable)[2]? ≠ some 'f' := by
  -- The third character tells a format from what else may stand there.
  match nullable with
  | none => decide
  | some b => cases b <;> decide

theorem formatChars_unique {format other : Option String} {nullable again : Option Bool}
    (legible : ∀ text ∈ format, legibleFormat text) (clear : ∀ text ∈ other, legibleFormat text)
    (same : formatChars format ++ closingChars nullable = formatChars other ++ closingChars again) :
    format = other ∧ nullable = again := by
  match format, other with
  | none, none => exact ⟨rfl, closingChars_injective same⟩
  | none, some text =>
    have third := formatChars_third text (closingChars again)
    rw [← same] at third
    exact absurd third (formatChars_third_of_none nullable)
  | some text, none =>
    have third := formatChars_third text (closingChars nullable)
    rw [same] at third
    exact absurd third (formatChars_third_of_none again)
  | some text, some own =>
    rw [formatChars_some, formatChars_some] at same
    obtain ⟨texts, behind⟩ := run_unique
      (fun c member => (legibleFormat_char (legible text rfl) c member).1)
      (fun c member => (legibleFormat_char (clear own rfl) c member).1) (by simp) (by simp)
      (List.append_cancel_left same)
    obtain rfl := String.toList_inj.mp texts
    exact ⟨rfl, closingChars_injective (List.cons.inj behind).2⟩

theorem natChars_unique {m n : Nat} {mark other : Char} {back rest : List Char}
    (ends : mark.isDigit = false) (stops : other.isDigit = false)
    (same : natChars m ++ mark :: back = natChars n ++ other :: rest) :
    m = n ∧ mark :: back = other :: rest := by
  obtain ⟨digits, behind⟩ :=
    run_unique (natChars_digits m) (natChars_digits n) (by simpa using ends)
    (by simpa using stops) same
  have value : digitsValue (natChars m) = digitsValue (natChars n) := by rw [digits]
  rw [digitsValue_natChars, digitsValue_natChars] at value
  exact ⟨value, behind⟩

theorem placesChars_unique {places others : Option (Nat × Nat)} {back rest : List Char}
    (ends : ∀ c ∈ back.head?, c ≠ '(') (stops : ∀ c ∈ rest.head?, c ≠ '(')
    (same : placesChars places ++ back = placesChars others ++ rest) :
    places = others ∧ back = rest := by
  match places, others with
  | none, none => exact ⟨rfl, same⟩
  | none, some _ =>
    rw [show back = _ from same] at ends
    exact absurd rfl (ends '(' rfl)
  | some _, none =>
    rw [show rest = _ from same.symm] at stops
    exact absurd rfl (stops '(' rfl)
  | some (p, s), some (q, r) =>
    simp only [placesChars, List.cons_append, List.append_assoc, List.cons.injEq, true_and,
      List.nil_append] at same
    obtain ⟨rfl, behind⟩ := natChars_unique (by decide) (by decide) same
    obtain ⟨rfl, closed⟩ := natChars_unique (by decide) (by decide) (List.cons.inj behind).2
    exact ⟨rfl, (List.cons.inj closed).2⟩

theorem head_of_formatChars (format : Option String) (nullable : Option Bool) :
    ∀ c ∈ (formatChars format ++ closingChars nullable).head?, c = ',' ∨ c = ' ' := by
  match format, nullable with
  | some _, _ => exact fun c member => .inl (Option.some.inj member).symm
  | none, some true => exact fun c member => .inl (Option.some.inj member).symm
  | none, some false => exact fun c member => .inl (Option.some.inj member).symm
  | none, none => exact fun c member => .inr (Option.some.inj member).symm

theorem detailChars_stops (type : DataType) (nullable : Option Bool) :
    ∀ c ∈ (detailChars type nullable).head?, c.isAlpha = false := by
  intro c member
  rw [detailChars] at member
  generalize type.places = places at member
  cases places with
  | some _ =>
    cases member
    rfl
  | none => rcases head_of_formatChars _ _ c member with rfl | rfl <;> rfl

theorem detailChars_unique {type other : DataType} {nullable again : Option Bool}
    (legible : ∀ text ∈ type.format, legibleFormat text)
    (clear : ∀ text ∈ other.format, legibleFormat text)
    (same : detailChars type nullable = detailChars other again) :
    type.places = other.places ∧ type.format = other.format ∧ nullable = again := by
  have closed {format : Option String} {nullable : Option Bool} :
      ∀ c ∈ (formatChars format ++ closingChars nullable).head?, c ≠ '(' := by
    intro c member
    rcases head_of_formatChars _ _ c member with rfl | rfl <;> decide
  obtain ⟨places, rest⟩ := placesChars_unique closed closed same
  exact ⟨places, formatChars_unique legible clear rest⟩

end Types

theorem primitiveLine_injective {label called : String} {type other : DataType}
    {nullable again : Option Bool} (named : legibleName label) (known : legibleName called)
    (primitive : type.isPrimitive)
    (simple : other.isPrimitive) (legible : ∀ text ∈ type.format, legibleFormat text)
    (clear : ∀ text ∈ other.format, legibleFormat text)
    (same : primitiveLine label type nullable = primitiveLine called other again) :
    label = called ∧ type = other ∧ nullable = again := by
  have texts := congrArg String.toList same
  rw [toList_primitiveLine, toList_primitiveLine] at texts
  obtain ⟨labels, behind⟩ := label_unique named known texts
  have titled :
      type.name.toList ++ detailChars type nullable =
        other.name.toList ++ detailChars other again :=
    @List.append_cancel_left _ " \x7b type: ".toList _ _ behind
  obtain ⟨names, details⟩ := run_unique type.name_letters other.name_letters
    (detailChars_stops type nullable) (detailChars_stops other again) titled
  obtain ⟨places, formats, nullables⟩ := detailChars_unique legible clear details
  exact ⟨labels, DataType.eq_of_parts primitive simple (String.toList_inj.mp names) places formats,
    nullables⟩

theorem primitiveLine_ne_label {label other : String} (named : legibleName label)
    (called : legibleName other) (type : DataType) (nullable : Option Bool) :
    primitiveLine label type nullable ≠ other ++ ":" := by
  intro same
  have texts := congrArg String.toList same
  rw [toList_primitiveLine, String.toList_append] at texts
  exact absurd (label_unique named called texts).2 (List.cons_ne_nil _ _)

section OneLine

theorem oneLine_indented {line : String} (one : OneLine line.toList) (indent : Nat) :
    OneLine (indented indent line).toList := by
  rw [toList_indented]
  apply OneLine.append _ one
  intro member
  exact absurd (List.eq_of_mem_replicate member) (by decide)

theorem oneLine_of_legibleName {name : String} (named : legibleName name) :
    OneLine name.toList := by
  intro member
  exact absurd (List.all_eq_true.mp named '\n' member) (by decide)

theorem DataType.oneLine_name (type : DataType) : OneLine type.name.toList := by
  intro member
  exact absurd (type.name_letters '\n' member) (by decide)

theorem oneLine_placesChars (places : Option (Nat × Nat)) : OneLine (placesChars places) := by
  match places with
  | none => decide
  | some (p, s) =>
    have precision : OneLine ('(' :: natChars p) := (oneLine_natChars p).cons (by decide)
    have scale : OneLine (',' :: natChars s) := (oneLine_natChars s).cons (by decide)
    exact (precision.append scale).append (by decide)

theorem oneLine_formatChars {format : Option String}
    (legible : ∀ text ∈ format, legibleFormat text) : OneLine (formatChars format) := by
  match format with
  | none => decide
  | some text =>
    have one : OneLine text.toList := by
      intro member
      exact absurd (legibleFormat_char (legible text rfl) '\n' member).2 (by decide)
    exact (OneLine.append (by decide) one).append (by decide)

theorem oneLine_closingChars (nullable : Option Bool) : OneLine (closingChars nullable) := by
  match nullable with
  | none => decide
  | some b => cases b <;> decide

theorem oneLine_primitiveLine {label : String} (named : legibleName label) {type : DataType}
    (legible : ∀ text ∈ type.format, legibleFormat text) (nullable : Option Bool) :
    OneLine (primitiveLine label type nullable).toList := by
  have details : OneLine (detailChars type nullable) :=
    (oneLine_placesChars _).append
      ((oneLine_formatChars legible).append (oneLine_closingChars nullable))
  rw [toList_primitiveLine]
  exact (oneLine_of_legibleName named).append
    (OneLine.append (by decide) (type.oneLine_name.append details))

end OneLine

end RecordRows
