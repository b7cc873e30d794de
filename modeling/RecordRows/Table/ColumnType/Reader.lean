import RecordRows.Table.ColumnType
import RecordRows.Text.Blank
import RecordRows.Text.LowerCase
import RecordRows.Text.Quoted
import RecordRows.Text.Reader
/-! Column types read from a list of types. -/

namespace RecordRows

inductive TypeFault where
  /-- No type starts at the rest of the text. -/
  | unexpected (rest : List Char)
  /-- The rest of the text does not continue the list. -/
  | trailing (rest : List Char)
  | precision (precision : Nat)
  | scale (scale precision : Nat)
  | varcharLength (length : Nat)
  | charLength (length : Nat)
  deriving DecidableEq, Repr

namespace ColumnType

def maxPrecision : Nat := 38
def maxVarcharLength : Nat := 65535
def maxCharLength : Nat := 255

def defaultDecimal : Nat × Nat := (10, 0)

end ColumnType

def TypeFault.message : TypeFault → String
  | unexpected rest => "unexpected input at " ++ String.ofList (Text.quoteChars rest)
  | trailing rest => "unexpected trailing characters: " ++ String.ofList (Text.quoteChars rest)
  | precision p =>
    "decimal precision " ++ Text.natText p ++ " is outside 1..=" ++
      Text.natText ColumnType.maxPrecision
  | scale s p => "decimal scale " ++ Text.natText s ++ " exceeds precision " ++ Text.natText p
  | varcharLength n =>
    "varchar length " ++ Text.natText n ++ " is outside 1..=" ++
      Text.natText ColumnType.maxVarcharLength
  | charLength n =>
    "char length " ++ Text.natText n ++ " is outside 1..=" ++ Text.natText ColumnType.maxCharLength

namespace ColumnType

open Text (Reader isSpace skipSpace)

def isWordChar (c : Char) : Bool := c.isAlphanum || c = '_'

def takeWord (cs : List Char) : List Char × List Char :=
  (Text.asciiLower (cs.takeWhile isWordChar), cs.dropWhile isWordChar)

def mark? (marks : List Char) (cs : List Char) : Option (List Char) :=
  match skipSpace cs with
  | c :: cs => if c ∈ marks then some (skipSpace cs) else none
  | [] => none

def spacedWord? (word : String) (cs : List Char) : Option (List Char) :=
  let (found, rest) := takeWord (skipSpace cs)
  if (cs.head?.any isSpace) && found = word.toList then some rest else none

def readNumber : Reader Nat := fun cs =>
  (Text.takeDigits cs).bind fun (digits, cs) =>
    let n := Text.digitsValue digits
    if n < UInt32.size then some (n, cs) else none

def readName : Reader String := fun cs =>
  match cs with
  | c :: _ =>
    if c.isAlpha || c = '_' then
      some (String.ofList (cs.takeWhile isWordChar), cs.dropWhile isWordChar)
    else none
  | [] => none

def readLength : Reader Nat := fun cs => do
  let cs ← mark? ['('] cs
  let (n, cs) ← readNumber cs
  return (n, ← mark? [')'] cs)

def readDecimalParameters : Reader (Nat × Nat) := fun cs => do
  let cs ← mark? ['('] cs
  let (precision, cs) ← readNumber cs
  let (scale, cs) := ((mark? [','] cs).bind readNumber).getD (defaultDecimal.2, cs)
  return ((precision, scale), ← mark? [')'] cs)

def plainWords : List (List Char × Primitive) :=
  [("void".toList, .void), ("boolean".toList, .boolean), ("tinyint".toList, .tinyint),
   ("smallint".toList, .smallint), ("integer".toList, .int), ("int".toList, .int),
   ("bigint".toList, .bigint), ("float".toList, .float), ("double".toList, .double),
   ("string".toList, .string), ("binary".toList, .binary), ("date".toList, .date),
   ("interval_year_month".toList, .intervalYearMonth),
   ("interval_day_time".toList, .intervalDayTime)]

def readPrimitive (word : List Char) : Reader Primitive := fun cs =>
  if word = "timestamp".toList then
    match ["with", "local", "time", "zone"].foldlM (fun cs word => spacedWord? word cs) cs with
    | some cs => some (.timestampLocal, cs)
    | none => some (.timestamp, cs)
  else if word = "varchar".toList then (readLength cs).map fun (n, cs) => (.varchar n, cs)
  else if word = "char".toList then (readLength cs).map fun (n, cs) => (.char n, cs)
  else if word = "decimal".toList then
    let ((precision, scale), cs) := (readDecimalParameters cs).getD (defaultDecimal, cs)
    some (.decimal precision scale, cs)
  else (plainWords.lookup word).map (·, cs)

def readMore {α : Type} (separator : List Char → Option (List Char)) (item : Reader α) :
    Nat → List Char → List α × List Char
  | 0, cs => ([], cs)
  | bound + 1, cs =>
    match (separator cs).bind item with
    | none => ([], cs)
    | some (a, cs) =>
      let (as, cs) := readMore separator item bound cs
      (a :: as, cs)

/-- One or more items with separators between them. An item takes at least one character, so that
there are at most as many as characters. -/
def readSeparated {α : Type} (separator : List Char → Option (List Char)) (item : Reader α) :
    Reader (List α) := fun cs => do
  let (a, cs) ← item cs
  let (as, cs) := readMore separator item cs.length cs
  return (a :: as, cs)

def readBracketed {α : Type} (content : Reader α) : Reader α := fun cs => do
  let (a, cs) ← content (← mark? ['<'] cs)
  return (a, ← mark? ['>'] cs)

def readEntry (inner : Reader ColumnType) : Reader (ColumnType × ColumnType) := fun cs => do
  let (key, cs) ← inner cs
  let (value, cs) ← inner (← mark? [','] cs)
  return ((key, value), cs)

def readMember (inner : Reader ColumnType) : Reader (String × ColumnType) := fun cs => do
  let (name, cs) ← readName (skipSpace cs)
  let (type, cs) ← inner (← mark? [':'] cs)
  return ((name, type), cs)

def readBy (inner : Reader ColumnType) : Reader ColumnType := fun cs =>
  let (word, rest) := takeWord (skipSpace cs)
  if word = "array".toList then
    (readBracketed inner rest).map fun (item, rest) => (.array item, rest)
  else if word = "map".toList then
    (readBracketed (readEntry inner) rest).map fun ((key, value), rest) => (.map key value, rest)
  else if word = "struct".toList then
    (readBracketed (readSeparated (mark? [',']) (readMember inner)) rest).map
      fun (members, rest) => (.struct members, rest)
  else if word = "uniontype".toList then
    (readBracketed (readSeparated (mark? [',']) inner) rest).map fun (members, rest) =>
      (.union members, rest)
  else (readPrimitive word rest).map fun (p, rest) => (.primitive p, rest)

def readWithin : Nat → Reader ColumnType
  | 0 => fun _ => none
  | depth + 1 => readBy (readWithin depth)

def read : Reader ColumnType := fun cs => readWithin cs.length cs

mutual

/-- The first parameter of a type, from the outside in, that is out of bounds. -/
def fault? : ColumnType → Option TypeFault
  | primitive (.decimal precision scale) =>
    if precision = 0 ∨ maxPrecision < precision then some (.precision precision)
    else if precision < scale then some (.scale scale precision)
    else none
  | primitive (.varchar n) => if 1 ≤ n ∧ n ≤ maxVarcharLength then none else some (.varcharLength n)
  | primitive (.char n) => if 1 ≤ n ∧ n ≤ maxCharLength then none else some (.charLength n)
  | primitive _ => none
  | array item => item.fault?
  | map key value => key.fault? <|> value.fault?
  | struct members => memberFault? members
  | union members => listFault? members

def memberFault? : List (String × ColumnType) → Option TypeFault
  | [] => none
  | (_, type) :: members => type.fault? <|> memberFault? members

def listFault? : List ColumnType → Option TypeFault
  | [] => none
  | type :: types => type.fault? <|> listFault? types

end

/-- Where the search for a first type gave up: at its start, or behind the word that is tried last
where that one runs on. -/
def failurePoint (cs : List Char) : List Char :=
  let last := "interval_day_time".toList
  let start := skipSpace cs
  if Text.sameIgnoringAsciiCase (start.take last.length) last then start.drop last.length else start

/-- The types of a list with commas, colons or semicolons between them. A blank text is the empty
list. -/
def readList (cs : List Char) : Except TypeFault (List ColumnType) :=
  if cs.all Text.isBlank then .ok []
  else
    match readSeparated (mark? [',', ':', ';']) read cs with
    | none => .error (.unexpected (failurePoint cs))
    | some (types, rest) =>
      if !(skipSpace rest).isEmpty then .error (.trailing (skipSpace rest))
      else
        match listFault? types with
        | some fault => .error fault
        | none => .ok types

end ColumnType

end RecordRows
