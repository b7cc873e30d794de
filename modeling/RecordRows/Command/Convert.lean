import RecordRows.Command.Basic
import RecordRows.Json.Row
/-! The command that converts the records of a file into rows. -/

namespace RecordRows.Command

def readRecord (path : String) (number : Nat) : Option String → Except Failure Record
  | none => .error .unreadable
  | some text => (Record.ofJson text).mapError (.invalidRecord (some (path, number)))

/-- Converts the records of some lines, and ends at the first that fails. Rejected records fail
unless they are to be skipped. The rows so far are kept. -/
def convertLines (path : String) (skipInvalid : Bool) (s : Session) :
    List (Nat × Option String) → List Row × Option Failure
  | [] => ([], none)
  | (number, line) :: lines =>
    match readRecord path number line with
    | .error failure => ([], some failure)
    | .ok record =>
      match s.step record with
      | (.ok row, s) =>
        let (rows, failure) := convertLines path skipInvalid s lines
        (row :: rows, failure)
      | (.error e, s) =>
        if skipInvalid then convertLines path skipInvalid s lines
        else ([], some (.rejected path number e))

def startSession (path : String) (properties : Properties) :
    List (Nat × Option String) → Except Failure Session
  | [] => .error (.noRecords path)
  | (number, line) :: _ =>
    (readRecord path number line).bind fun record =>
      (Session.start properties record.schema).mapError .config

def rowLines (rows : List Row) : String :=
  String.join (rows.map fun row => (Row.toJson row).text ++ "\n")

/-- Converts the content of a file, if there is one at the path. The output is made once the
properties are known. -/
def convert (args : TableArguments) (skipInvalid : Bool) (path : String)
    (content : Option (List UInt8)) : Outcome :=
  match args.properties with
  | .error e => ⟨none, some (.config e)⟩
  | .ok properties =>
    match content with
    | none => ⟨some "", some (.cannotOpen path)⟩
    | some content =>
      let lines := numberedLines content
      match startSession path properties lines with
      | .error failure => ⟨some "", some failure⟩
      | .ok s =>
        let (rows, failure) := convertLines path skipInvalid s lines
        ⟨some (rowLines rows), failure⟩

end RecordRows.Command
