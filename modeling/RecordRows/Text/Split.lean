/-! Splitting a text at a delimiter. -/

namespace RecordRows.Text

def consFirst (c : Char) : List (List Char) → List (List Char)
  | [] => [[c]]
  | piece :: pieces => (c :: piece) :: pieces

/-- The pieces between the occurrences of a delimiter, found from left to right without overlap. -/
def splitOn (delimiter : List Char) : List Char → List (List Char)
  | [] => [[]]
  | c :: cs =>
    if delimiter.isPrefixOf (c :: cs) then
      [] :: splitOn delimiter (cs.drop (delimiter.length - 1))
    else consFirst c (splitOn delimiter cs)
termination_by cs => cs.length
decreasing_by all_goals simp; try omega

def dropTrailingEmpty (pieces : List (List Char)) : List (List Char) :=
  (pieces.reverse.dropWhile List.isEmpty).reverse

/-- The names in a list of names. Empty names at the end are dropped. An empty delimiter stands
between any two characters and at both ends. -/
def splitNames (names delimiter : String) : List String :=
  let pieces :=
    if delimiter.isEmpty then [] :: names.toList.map ([·]) ++ [[]]
    else splitOn delimiter.toList names.toList
  (dropTrailingEmpty pieces).map String.ofList

/-- The pieces between separators, of which one after an escape is part of its piece. An escape at
the very end stands for itself. -/
def splitEscaped (separator escape : Char) : List Char → List (List Char)
  | [] => [[]]
  | [c] =>
    if c = escape then [[escape]] else if c = separator then [[], []] else [[c]]
  | c :: d :: cs =>
    if c = escape then consFirst d (splitEscaped separator escape cs)
    else if c = separator then [] :: splitEscaped separator escape (d :: cs)
    else consFirst c (splitEscaped separator escape (d :: cs))

def splitUnescape (s : String) (separator escape : Char) : List String :=
  if s.isEmpty then [] else (splitEscaped separator escape s.toList).map String.ofList

end RecordRows.Text
