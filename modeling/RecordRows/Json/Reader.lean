import RecordRows.Json.Number
/-! JSON values read from a text. -/

namespace RecordRows.JsonValue

open RecordRows.Text

def takeUnit : Reader Nat := fun cs =>
  match cs with
  | a :: b :: c :: d :: cs =>
    ([a, b, c, d].foldlM (fun n c => (hexValue? c).map (n * 16 + ·)) 0).map (·, cs)
  | _ => none

/-- The character of a unit, for a high surrogate together with a low one that must follow. -/
def takeEscapedUnit : Reader Char := fun cs => do
  let (unit, cs) ← takeUnit cs
  if 0xd800 ≤ unit ∧ unit ≤ 0xdbff then
    match cs with
    | '\x5c' :: 'u' :: cs => do
      let (low, cs) ← takeUnit cs
      if 0xdc00 ≤ low ∧ low ≤ 0xdfff then
        some (Char.ofNat (0x10000 + (unit - 0xd800) * 1024 + (low - 0xdc00)), cs)
      else none
    | _ => none
  else if 0xdc00 ≤ unit ∧ unit ≤ 0xdfff then none
  else some (Char.ofNat unit, cs)

def takeEscape : Reader Char
  | '\x22' :: cs => some ('\x22', cs)
  | '\x5c' :: cs => some ('\x5c', cs)
  | '/' :: cs => some ('/', cs)
  | 'b' :: cs => some ('\x08', cs)
  | 'f' :: cs => some ('\x0c', cs)
  | 'n' :: cs => some ('\n', cs)
  | 'r' :: cs => some ('\r', cs)
  | 't' :: cs => some ('\t', cs)
  | 'u' :: cs => takeEscapedUnit cs
  | _ => none

def readStringWithin : Nat → Reader (List Char)
  | 0, _ => none
  | bound + 1, cs =>
    match cs with
    | [] => none
    | c :: cs =>
      if c = '\x22' then some ([], cs)
      else if c = '\x5c' then
        (takeEscape cs).bind fun (c, cs) =>
          (readStringWithin bound cs).map fun (rest, cs) => (c :: rest, cs)
      else if c.toNat < 0x20 then none
      else (readStringWithin bound cs).map fun (rest, cs) => (c :: rest, cs)

def readString : Reader String := fun cs =>
  (readStringWithin cs.length cs).map fun (chars, cs) => (String.ofList chars, cs)

def takeWord? (word : String) (cs : List Char) : Option (List Char) :=
  if word.toList.isPrefixOf cs then some (cs.drop word.length) else none

def readScalar : Reader JsonValue := fun cs =>
  match cs with
  | '\x22' :: cs => (readString cs).map fun (s, cs) => (string s, cs)
  | 'n' :: _ => (takeWord? "null" cs).map (null, ·)
  | 't' :: _ => (takeWord? "true" cs).map (bool true, ·)
  | 'f' :: _ => (takeWord? "false" cs).map (bool false, ·)
  | cs => readNumber cs

def readParts {α : Type} (part : Reader α) (closing : Char) : Nat → Reader (List α)
  | 0, _ => none
  | bound + 1, cs =>
    (part cs).bind fun (a, cs) =>
      match skipSpace cs with
      | [] => none
      | c :: cs =>
        if c = closing then some ([a], cs)
        else if c = ',' then
          (readParts part closing bound cs).map fun (as, cs) => (a :: as, cs)
        else none

/-- Parts in brackets, of which the opening one is already taken. A part takes at least one
character, so that there are at most as many as characters. -/
def readEnclosed {α : Type} (part : Reader α) (closing : Char) : Reader (List α) := fun cs =>
  match skipSpace cs with
  | [] => none
  | c :: rest => if c = closing then some ([], rest) else readParts part closing cs.length cs

def readMember (value : Reader JsonValue) : Reader (String × JsonValue) := fun cs =>
  match skipSpace cs with
  | '\x22' :: cs => do
    let (name, cs) ← readString cs
    match skipSpace cs with
    | ':' :: cs => do
      let (v, cs) ← value cs
      return ((name, v), cs)
    | _ => none
  | _ => none

def readWithin : Nat → Reader JsonValue
  | 0, cs => readScalar (skipSpace cs)
  | levels + 1, cs =>
    match skipSpace cs with
    | '[' :: cs =>
      (readEnclosed (readWithin levels) ']' cs).map fun (items, cs) => (array items, cs)
    | '\x7b' :: cs =>
      (readEnclosed (readMember (readWithin levels)) '\x7d' cs).map fun (members, cs) =>
        (object (sortMembers members), cs)
    | cs => readScalar cs

def maxLevels : Nat := 127

def read? (cs : List Char) : Option JsonValue :=
  match readWithin maxLevels cs with
  | some (v, rest) => if (skipSpace rest).isEmpty then some v else none
  | none => none

end RecordRows.JsonValue
