import RecordRows.Json.Inference
import RecordRows.Row.Session
/-! What the commands have in common: the table they are given, the lines they read and the ways in
which they fail. -/

namespace RecordRows.Command

structure TableArguments where
  columns : String
  types : String
  delimiter : Option String
  timestampFormats : Option String
  decimalMode : Option DecimalMode

def TableArguments.properties (args : TableArguments) : Except ConfigError Properties :=
  let given (property : Property) (value : Option String) :=
    (value.map fun value => (property.key, value)).toList
  Properties.ofPairs (
    [(Property.columns.key, args.columns), (Property.columnTypes.key, args.types)] ++
      given .delimiter args.delimiter ++ given .timestampFormats args.timestampFormats ++
      given .decimalMode (args.decimalMode.map (·.name)))

inductive Failure where
  | config (e : ConfigError)
  | cannotOpen (path : String)
  | unreadable
  | noRecords (path : String)
  | invalidRecord (place : Option (String × Nat)) (fault : JsonFault)
  | rejected (path : String) (line : Nat) (e : ConversionError)

def placeText (path : String) (line : Nat) : String :=
  path ++ ":" ++ Text.natText line

/-- The message of a failure. The detail of one in reading the file or its JSON is left out. -/
def Failure.message : Failure → String
  | config e => e.message
  | cannotOpen path => "failed to open " ++ path
  | unreadable => ""
  | noRecords path => "no records found in " ++ path
  | invalidRecord place fault =>
    let context := (place.map fun (path, line) => placeText path line ++ ": invalid record").toList
    let detail := match fault with
      | .notJson => []
      | .notObject => ["expected a JSON object"]
    String.intercalate ": " (context ++ detail)
  | rejected path line e => placeText path line ++ ": record rejected: " ++ e.message

structure Outcome where
  output : Option String
  failure : Option Failure

def consOctet (b : UInt8) (lines : List (List UInt8)) : List (List UInt8) :=
  if b = 10 then [b] :: lines
  else
    match lines with
    | [] => [[b]]
    | line :: lines => (b :: line) :: lines

def cutLines (bs : List UInt8) : List (List UInt8) := bs.foldr consOctet []

/-- A line without its end, to which a carriage return before it belongs. -/
def dropLineEnd (line : List UInt8) : List UInt8 :=
  if line.getLast? = some 10 then
    if line.dropLast.getLast? = some 13 then line.dropLast.dropLast else line.dropLast
  else line

def isBlankLine (line : Option String) : Bool :=
  line.any fun s => s.toList.all Text.isBlank

/-- The lines that are not blank, with their numbers from 1. What is not UTF-8 has no text. -/
def numberedLines (content : List UInt8) : List (Nat × Option String) :=
  ((cutLines content).zipIdx.map fun (line, i) =>
    (i + 1, Text.Utf8.decode? (dropLineEnd line))).filter fun (_, line) => !isBlankLine line

end RecordRows.Command
