import RecordRows.Proofs.Text.Digits
import RecordRows.Table.ColumnType.Reader
/-! The notation of column types: which texts spell a type or a list of types, and which types have
all their parameters within bounds. -/

namespace RecordRows

namespace Text

/-- A run of white space, perhaps empty. -/
def Gap (cs : List Char) : Prop := ∀ c ∈ cs, isSpace c

instance (cs : List Char) : Decidable (Gap cs) := inferInstanceAs (Decidable (∀ c ∈ cs, isSpace c))

/-- White space that divides two words. -/
def Break (cs : List Char) : Prop := Gap cs ∧ cs ≠ []

instance (cs : List Char) : Decidable (Break cs) := inferInstanceAs (Decidable (_ ∧ _))

def Cased (word : String) (cs : List Char) : Prop := asciiLower cs = word.toList

instance (word : String) (cs : List Char) : Decidable (Cased word cs) :=
  inferInstanceAs (Decidable (_ = _))

/-- One of some marks, with white space around it. -/
def Marked (marks cs : List Char) : Prop :=
  ∃ before mark after, Gap before ∧ mark ∈ marks ∧ Gap after ∧ cs = before ++ mark :: after

def IsName (cs : List Char) : Prop :=
  ∃ first rest, cs = first :: rest ∧ (first.isAlpha ∨ first = '_') ∧
    ∀ c ∈ rest, c.isAlphanum ∨ c = '_'

inductive Separated {α : Type} (separator : List Char → Prop) (item : α → List Char → Prop) :
    List α → List Char → Prop
  | single {a : α} {cs : List Char} (head : item a cs) : Separated separator item [a] cs
  | cons {a : α} {as : List α} {cs mark more : List Char} (head : item a cs)
      (between : separator mark) (tail : Separated separator item as more) :
      Separated separator item (a :: as) (cs ++ (mark ++ more))

end Text

open Text

namespace Primitive

def isWord : Primitive → Bool
  | varchar _ | char _ | decimal .. | timestampLocal => false
  | _ => true

inductive Spells : Primitive → List Char → Prop
  | word {p : Primitive} {cs : List Char} (plain : p.isWord) (name : Cased p.name cs) : Spells p cs
  | integer {cs : List Char} (name : Cased "integer" cs) : Spells int cs
  | timestampLocal {cs : List Char}
      (words : Separated Break Cased ["timestamp", "with", "local", "time", "zone"] cs) :
      Spells timestampLocal cs
  | varchar {n : Nat} {name left digits right : List Char} (named : Cased "varchar" name)
      (opened : Marked ['('] left) (length : Numeral n digits) (closed : Marked [')'] right) :
      Spells (varchar n) (name ++ (left ++ (digits ++ right)))
  | char {n : Nat} {name left digits right : List Char} (named : Cased "char" name)
      (opened : Marked ['('] left) (length : Numeral n digits) (closed : Marked [')'] right) :
      Spells (char n) (name ++ (left ++ (digits ++ right)))
  | decimal {cs : List Char} (named : Cased "decimal" cs) : Spells (decimal 10 0) cs
  | decimalPrecision {p : Nat} {name left digits right : List Char} (named : Cased "decimal" name)
      (opened : Marked ['('] left) (precision : Numeral p digits) (closed : Marked [')'] right) :
      Spells (decimal p 0) (name ++ (left ++ (digits ++ right)))
  | decimalScale {p s : Nat} {name left digits comma places right : List Char}
      (named : Cased "decimal" name) (opened : Marked ['('] left) (precision : Numeral p digits)
      (divided : Marked [','] comma) (scale : Numeral s places) (closed : Marked [')'] right) :
      Spells (decimal p s) (name ++ (left ++ (digits ++ (comma ++ (places ++ right)))))

def WithinBounds : Primitive → Prop
  | decimal precision scale => 1 ≤ precision ∧ precision ≤ 38 ∧ scale ≤ precision
  | varchar n => 1 ≤ n ∧ n ≤ 65535
  | char n => 1 ≤ n ∧ n ≤ 255
  | _ => True

end Primitive

namespace ColumnType

mutual

inductive Spells : ColumnType → List Char → Prop
  | primitive {p : Primitive} {cs : List Char} (scalar : p.Spells cs) : Spells (primitive p) cs
  | array {item : ColumnType} {name left cs right : List Char} (named : Cased "array" name)
      (opened : Marked ['<'] left) (content : Spells item cs) (closed : Marked ['>'] right) :
      Spells (array item) (name ++ (left ++ (cs ++ right)))
  | map {key value : ColumnType} {name left cs comma ds right : List Char}
      (named : Cased "map" name) (opened : Marked ['<'] left) (keyed : Spells key cs)
      (divided : Marked [','] comma) (valued : Spells value ds) (closed : Marked ['>'] right) :
      Spells (map key value) (name ++ (left ++ ((cs ++ (comma ++ ds)) ++ right)))
  | struct {members : List (String × ColumnType)} {name left cs right : List Char}
      (named : Cased "struct" name) (opened : Marked ['<'] left)
      (content : Separated (Marked [',']) MemberSpells members cs)
      (closed : Marked ['>'] right) : Spells (struct members) (name ++ (left ++ (cs ++ right)))
  | union {members : List ColumnType} {name left cs right : List Char}
      (named : Cased "uniontype" name) (opened : Marked ['<'] left)
      (content : Separated (Marked [',']) Spells members cs)
      (closed : Marked ['>'] right) : Spells (union members) (name ++ (left ++ (cs ++ right)))

inductive MemberSpells : String × ColumnType → List Char → Prop
  | named {name : String} {type : ColumnType} {colon cs : List Char} (plain : IsName name.toList)
      (divided : Marked [':'] colon) (typed : Spells type cs) :
      MemberSpells (name, type) (name.toList ++ (colon ++ cs))

end

/-- The types of a list stand between commas, colons or semicolons, with white space at
both ends. -/
def SpellsList (types : List ColumnType) (cs : List Char) : Prop :=
  ∃ before body after, Gap before ∧ Separated (Marked [',', ':', ';']) Spells types body ∧
    Gap after ∧ cs = before ++ (body ++ after)

/-- All parameters of a type, at every depth, are within bounds. -/
inductive WithinBounds : ColumnType → Prop
  | primitive {p : Primitive} (within : p.WithinBounds) : WithinBounds (primitive p)
  | array {item : ColumnType} (within : WithinBounds item) : WithinBounds (array item)
  | map {key value : ColumnType} (keyWithin : WithinBounds key) (valueWithin : WithinBounds value) :
      WithinBounds (map key value)
  | struct {members : List (String × ColumnType)}
      (within : ∀ member ∈ members, WithinBounds member.2) : WithinBounds (struct members)
  | union {members : List ColumnType} (within : ∀ member ∈ members, WithinBounds member) :
      WithinBounds (union members)

/-- Structures and unions, at every depth, have members, and the members of structures
have names. -/
inductive Declarable : ColumnType → Prop
  | primitive (p : Primitive) : Declarable (primitive p)
  | array {item : ColumnType} (inner : Declarable item) : Declarable (array item)
  | map {key value : ColumnType} (keyed : Declarable key) (valued : Declarable value) :
      Declarable (map key value)
  | struct {members : List (String × ColumnType)} (nonempty : members ≠ [])
      (named : ∀ member ∈ members, IsName member.1.toList)
      (inner : ∀ member ∈ members, Declarable member.2) : Declarable (struct members)
  | union {members : List ColumnType} (nonempty : members ≠ [])
      (inner : ∀ member ∈ members, Declarable member) : Declarable (union members)

end ColumnType

end RecordRows
