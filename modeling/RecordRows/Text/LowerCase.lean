import RecordRows.Text.LowerCase.Context
import RecordRows.Text.LowerCase.Table
/-! Lower case of a text: the full Unicode mapping, with the final form of sigma. -/

namespace RecordRows.Text

def CaseRun.map? (run : CaseRun) (n : Nat) : Option Nat :=
  if run.first ≤ n ∧ n ≤ run.last ∧ (n - run.first) % run.step = 0 then
    some (run.image + (n - run.first))
  else none

/-- Lower case without regard to the neighbours. Only the dotted capital I has two characters. -/
def lowerChar (c : Char) : List Char :=
  if c = 'İ' then ['i', '\u0307']
  else match caseRuns.findSome? (·.map? c.toNat) with
    | some n => [Char.ofNat n]
    | none => [c]

def startsCased (cs : List Char) : Bool :=
  match cs.dropWhile caseIgnorableRanges.has with
  | [] => false
  | c :: _ => casedRanges.has c

/-- `before` holds the characters already passed, the last one first. A capital sigma at the end of
a word takes the final form. -/
def lowerAfter (before : List Char) : List Char → List Char
  | [] => []
  | c :: cs =>
    (if c = 'Σ' then [if startsCased before && !startsCased cs then 'ς' else 'σ'] else lowerChar c)
      ++ lowerAfter (c :: before) cs

def lowerCase (s : String) : String := String.ofList (lowerAfter [] s.toList)

def asciiLower (cs : List Char) : List Char := cs.map Char.toLower

def sameIgnoringAsciiCase (a b : List Char) : Bool := asciiLower a == asciiLower b

end RecordRows.Text
