import RecordRows.Record.Schema
import RecordRows.Table.Basic
/-! The columns that the fields of a record belong to. -/

namespace RecordRows

def internalStem : String := "_col"

def internalName (position : Nat) : String :=
  internalStem ++ Text.natText position

def maxPosition : Nat := UInt64.size - 1

/-- The number behind the stem of an internal name. Numbers past the greatest position become it,
so that they do not encode the name they come from. -/
def internalPosition? (name : String) : Option Nat :=
  let stem := internalStem.toList
  if stem.isPrefixOf name.toList then
    (Text.readNat? (name.toList.drop stem.length)).map (min maxPosition)
  else none

inductive Position where
  | column (ordinal : Nat)
  | unmapped
  deriving DecidableEq, Repr

def Position.ordinal? : Position → Option Nat
  | column ordinal => some ordinal
  | unmapped => none

/-- Positions by field name in lower case, each name once. -/
structure Positions where
  entries : List (String × Position)

namespace Positions

def put (entries : List (String × Position)) (name : String) (position : Position) :
    List (String × Position) :=
  match entries with
  | [] => [(name, position)]
  | (other, old) :: entries =>
    if other = name then (name, position) :: entries else (other, old) :: put entries name position

/-- The position that an internal name encodes. A name with another form has none. -/
def ofInternalName (t : Table) (field : String) : Except ConfigError Position :=
  match internalPosition? field with
  | none => .ok .unmapped
  | some position =>
    if !Text.sameIgnoringAsciiCase field.toList (internalName position).toList then
      .error (.internalName field position)
    else if t.size ≤ position then .error (.positionOutOfRange field position t.size)
    else .ok (.column position)

def byName (t : Table) (names : List String) : List (String × Nat) :=
  names.filterMap fun name =>
    (t.positionOf? (Text.lowerCase name)).map (Text.lowerCase name, ·)

/-- The position of each other field. An internal name of a column that a field has by name is
unmapped. -/
def byInternalName (t : Table) (claimed : List Nat) (names : List String) :
    Except ConfigError (List (String × Position)) :=
  (names.filter fun name => (t.positionOf? (Text.lowerCase name)).isNone).mapM fun name =>
    (ofInternalName t name).map fun position =>
      (Text.lowerCase name,
        if position.ordinal?.any (claimed.contains ·) then .unmapped else position)

def resolve (t : Table) (source : Schema) : Except ConfigError Positions :=
  let named := byName t source.names
  (byInternalName t (named.map (·.2)) source.names).map fun others =>
    let entries := named.map (fun (name, ordinal) => (name, .column ordinal)) ++ others
    ⟨entries.foldl (fun known (name, position) => put known name position) []⟩

/-- The position of a field. Names are looked up as they are and then in lower case; an unknown
one is unmapped. -/
def position (p : Positions) (field : String) : Position :=
  (p.entries.lookup field <|> p.entries.lookup (Text.lowerCase field)).getD .unmapped

def ordinal? (p : Positions) (field : String) : Option Nat := (p.position field).ordinal?

def mapped (p : Positions) : List (String × Nat) :=
  (p.entries.filterMap fun (name, position) => position.ordinal?.map (name, ·)).mergeSort
    fun a b => a.2 < b.2 || (a.2 == b.2 && decide (a.1 ≤ b.1))

def unmapped (p : Positions) : List String :=
  (p.entries.filterMap fun (name, position) =>
    if position.ordinal?.isNone then some name else none).mergeSort

def size (p : Positions) : Nat := p.mapped.length

end Positions

end RecordRows
