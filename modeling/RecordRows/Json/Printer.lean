import RecordRows.Binary.Printer
import RecordRows.Json.Basic
import RecordRows.Text.Quoted
/-! The compact text of JSON values. -/

namespace RecordRows

def Digits.scientific (d : Digits) : List Char :=
  match d.digits with
  | [] => []
  | [c] => [c]
  | c :: cs => c :: '.' :: cs

/-- Numbers from 0.00001 up to below 10 ^ 16 are positional, whole ones with a zero after the point.
All others have an exponent with its sign. -/
def Digits.jsonText (d : Digits) : List Char :=
  if -5 < d.point ∧ d.point ≤ 16 then
    d.positional ++ (if d.digits.length ≤ d.point then ['.', '0'] else [])
  else
    d.scientific ++ 'e' :: (if 0 < d.point then '+' else '-') ::
      Text.natChars (d.point - 1).natAbs

def Binary.jsonText (x : Double) : List Char :=
  if !x.isFinite then "null".toList
  else
    (if x.negative then ['-'] else []) ++
      (if x.magnitude = 0 then "0.0".toList else x.shortest.jsonText)

namespace JsonValue

/-- A character inside a JSON string. Only quotation marks, backslashes and controls are escaped. -/
def escapeChar (c : Char) : List Char :=
  if c = '\x22' then ['\x5c', '\x22']
  else if c = '\x5c' then ['\x5c', '\x5c']
  else if c = '\n' then ['\x5c', 'n']
  else if c = '\r' then ['\x5c', 'r']
  else if c = '\t' then ['\x5c', 't']
  else if c = '\x08' then ['\x5c', 'b']
  else if c = '\x0c' then ['\x5c', 'f']
  else if c.toNat < 0x20 then
    ['\x5c', 'u', '0', '0'] ++ (if c.toNat < 0x10 then ['0'] else []) ++ Text.hexDigits c.toNat
  else [c]

def stringChars (s : String) : List Char :=
  '\x22' :: s.toList.flatMap escapeChar ++ ['\x22']

mutual

def chars : JsonValue → List Char
  | null => "null".toList
  | bool b => (if b then "true" else "false").toList
  | integer n => Text.intChars n
  | double x => x.jsonText
  | string s => stringChars s
  | array items => '[' :: itemChars items ++ [']']
  | object members => '\x7b' :: memberChars members ++ ['\x7d']

def itemChars : List JsonValue → List Char
  | [] => []
  | [item] => item.chars
  | item :: next :: items => item.chars ++ ',' :: itemChars (next :: items)

def memberChars : List (String × JsonValue) → List Char
  | [] => []
  | [(name, v)] => stringChars name ++ ':' :: v.chars
  | (name, v) :: member :: members =>
    stringChars name ++ ':' :: v.chars ++ ',' :: memberChars (member :: members)

end

def text (v : JsonValue) : String := String.ofList v.chars

end JsonValue

end RecordRows
