import RecordRows.Record.Schema
import RecordRows.Text.Digits
/-! The outline of a schema: a line for each primitive field and an indented block for each compound
one. -/

namespace RecordRows

def boolText (b : Bool) : String := if b then "true" else "false"

def indented (indent : Nat) (line : String) : String :=
  String.ofList (List.replicate indent ' ') ++ line

def DataType.title : DataType → String
  | .decimal precision scale =>
    "decimal(" ++ Text.natText precision ++ "," ++ Text.natText scale ++ ")"
  | type => type.name

def primitiveLine (label : String) (type : DataType) (nullable : Option Bool) : String :=
  label ++ ": \x7b type: " ++ type.title ++
    (type.format.map fun format => ", format: \"" ++ format ++ "\"").getD "" ++
    (nullable.map fun nullable => ", nullable: " ++ boolText nullable).getD "" ++ " \x7d"

/-- The lines of a labelled type: one of a primitive type, and else the label above the block, which
stands further inside. -/
def labelled? (block? : Nat → Option (List String)) (label : String) (type : DataType)
    (nullable : Option Bool) (indent : Nat) : Option (List String) :=
  if type.isPrimitive then some [indented indent (primitiveLine label type nullable)]
  else (block? (indent + 4)).map (indented indent (label ++ ":") :: ·)

def blockHead (type : DataType) (nullable : Option Bool) (indent : Nat) : List String :=
  indented indent ("type: " ++ type.name) ::
    (nullable.map fun nullable => indented indent ("nullable: " ++ boolText nullable)).toList

mutual

/-- The lines of the block of a compound type. A primitive type has none. -/
def DataType.block? (nullable : Option Bool) (indent : Nat) : DataType → Option (List String)
  | .record fields =>
    (Schema.lines? (indent + 4) fields).map fun lines =>
      blockHead (.record fields) nullable indent ++ indented indent "fields:" :: lines
  | .array item =>
    (labelled? (item.block? none) "item" item none indent).map fun lines =>
      blockHead (.array item) nullable indent ++ lines
  | .map value =>
    (labelled? (value.block? none) "value" value none indent).map fun lines =>
      blockHead (.map value) nullable indent ++ lines
  | _ => none

def Schema.lines? (indent : Nat) : List (Field DataType) → Option (List String)
  | [] => some []
  | ⟨name, type, nullable⟩ :: fields => do
    let first ← labelled? (type.block? (some nullable)) name type (some nullable) indent
    let rest ← Schema.lines? indent fields
    return first ++ rest

end

def joinLines (lines : List String) : String := String.join (lines.map (· ++ "\n"))

def Schema.outline? (schema : Schema) : Option String := (Schema.lines? 0 schema).map joinLines

theorem isSome_labelled? {block? : Nat → Option (List String)} {type : DataType}
    (block : type.isPrimitive = false → ∀ indent, (block? indent).isSome) (label : String)
    (nullable : Option Bool) (indent : Nat) :
    (labelled? block? label type nullable indent).isSome := by
  rw [labelled?]
  split
  · rfl
  · next compound =>
    rw [Option.isSome_map]
    exact block (Bool.eq_false_iff.mpr compound) _

mutual

theorem DataType.isSome_block? (type : DataType) (compound : type.isPrimitive = false)
    (nullable : Option Bool) (indent : Nat) : (type.block? nullable indent).isSome := by
  cases type with
  | record fields =>
    rw [DataType.block?, Option.isSome_map]
    exact Schema.isSome_lines? fields _
  | array item =>
    rw [DataType.block?, Option.isSome_map]
    exact isSome_labelled? (fun inner => item.isSome_block? inner none) "item" none indent
  | map value =>
    rw [DataType.block?, Option.isSome_map]
    exact isSome_labelled? (fun inner => value.isSome_block? inner none) "value" none indent
  | _ => cases compound

theorem Schema.isSome_lines? (fields : List (Field DataType)) (indent : Nat) :
    (Schema.lines? indent fields).isSome := by
  cases fields with
  | nil => rfl
  | cons field fields =>
    obtain ⟨name, type, nullable⟩ := field
    have own := isSome_labelled? (fun inner => type.isSome_block? inner (some nullable)) name
      (some nullable) indent
    have others := Schema.isSome_lines? fields indent
    obtain ⟨first, found⟩ := Option.isSome_iff_exists.mp own
    obtain ⟨rest, behind⟩ := Option.isSome_iff_exists.mp others
    rw [Schema.lines?, found, behind]
    rfl

end

theorem Schema.isSome_outline? (schema : Schema) : schema.outline?.isSome := by
  rw [outline?, Option.isSome_map]
  exact Schema.isSome_lines? schema 0

/-- The outline, which no schema lacks: blocks are asked of compound types only. -/
def Schema.outline (schema : Schema) : String := schema.outline?.get schema.isSome_outline?

end RecordRows
