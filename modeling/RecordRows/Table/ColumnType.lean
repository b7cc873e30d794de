import RecordRows.Text.Digits
/-! Types of table columns and their texts. -/

namespace RecordRows

inductive Primitive where
  | void | boolean | tinyint | smallint | int | bigint | float | double
  | string
  | varchar (length : Nat)
  | char (length : Nat)
  | binary | date | timestamp | timestampLocal
  | decimal (precision scale : Nat)
  | intervalYearMonth | intervalDayTime
  deriving DecidableEq, Repr

inductive ColumnType where
  | primitive (p : Primitive)
  | array (item : ColumnType)
  | map (key value : ColumnType)
  | struct (members : List (String × ColumnType))
  | union (members : List ColumnType)

namespace Primitive

def name : Primitive → String
  | void => "void"
  | boolean => "boolean"
  | tinyint => "tinyint"
  | smallint => "smallint"
  | int => "int"
  | bigint => "bigint"
  | float => "float"
  | double => "double"
  | string => "string"
  | varchar _ => "varchar"
  | char _ => "char"
  | binary => "binary"
  | date => "date"
  | timestamp => "timestamp"
  | timestampLocal => "timestamp with local time zone"
  | decimal .. => "decimal"
  | intervalYearMonth => "interval_year_month"
  | intervalDayTime => "interval_day_time"

def chars : Primitive → List Char
  | varchar n => "varchar(".toList ++ Text.natChars n ++ [')']
  | char n => "char(".toList ++ Text.natChars n ++ [')']
  | decimal p s => "decimal(".toList ++ Text.natChars p ++ ',' :: Text.natChars s ++ [')']
  | p => p.name.toList

end Primitive

namespace ColumnType

def isPrimitive : ColumnType → Bool
  | primitive _ => true
  | _ => false

def category : ColumnType → String
  | primitive _ => "primitive"
  | array _ => "list"
  | map .. => "map"
  | struct _ => "struct"
  | union _ => "union"

mutual

def chars : ColumnType → List Char
  | primitive p => p.chars
  | array item => "array<".toList ++ item.chars ++ ['>']
  | map key value => "map<".toList ++ key.chars ++ ',' :: value.chars ++ ['>']
  | struct members => "struct<".toList ++ memberChars members ++ ['>']
  | union members => "uniontype<".toList ++ listChars members ++ ['>']

def memberChars : List (String × ColumnType) → List Char
  | [] => []
  | [(name, type)] => name.toList ++ ':' :: type.chars
  | (name, type) :: member :: members =>
    name.toList ++ ':' :: type.chars ++ ',' :: memberChars (member :: members)

def listChars : List ColumnType → List Char
  | [] => []
  | [type] => type.chars
  | type :: next :: types => type.chars ++ ',' :: listChars (next :: types)

end

def text (t : ColumnType) : String := String.ofList t.chars

end ColumnType

end RecordRows
