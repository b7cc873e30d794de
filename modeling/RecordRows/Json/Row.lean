import RecordRows.Json.Printer
import RecordRows.Row.Cell
/-! Rows as JSON arrays. -/

namespace RecordRows

def JsonValue.ofDouble (x : Double) : JsonValue := if x.isFinite then .double x else .null

namespace Cell

mutual

/-- Decimals, dates and timestamps are given as texts, and bytes as numbers. -/
def toJson : Cell → JsonValue
  | .absent => .null
  | .boolean b => .bool b
  | .int n => .integer n.toInt
  | .long n => .integer n.toInt
  | .float x => .ofDouble (x.convert .double)
  | .double x => .ofDouble x
  | .decimal d => .string d.text
  | .string s => .string s
  | .binary bs => .array (bs.map fun b => .integer b.toNat)
  | .date d => .string d.text
  | .timestamp ts => .string ts.text
  | .list items => .array (itemsToJson items)
  | .map entries => .object (JsonValue.sortMembers (entriesToJson entries))
  | .struct members => .object (JsonValue.sortMembers (entriesToJson members))

def itemsToJson : List Cell → List JsonValue
  | [] => []
  | cell :: cells => cell.toJson :: itemsToJson cells

def entriesToJson : List (String × Cell) → List (String × JsonValue)
  | [] => []
  | (name, cell) :: entries => (name, cell.toJson) :: entriesToJson entries

end

end Cell

def Row.toJson (row : Row) : JsonValue := .array (Cell.itemsToJson row)

end RecordRows
