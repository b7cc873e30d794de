import RecordRows.Command.Arguments
/-! The command line: reads the input file, runs the command and writes what it leaves. -/

open RecordRows Command

def readInput (path : String) : IO (Option (List UInt8)) := do
  try return some (← IO.FS.readBinFile path).toList
  catch _ => return none

def writeOutput (output : Option String) (text : String) : IO Unit :=
  match output with
  | some path => IO.FS.writeFile path text
  | none => IO.print text

def main (arguments : List String) : IO UInt32 := do
  match Invocation.ofList arguments with
  | .error message =>
    IO.eprintln message
    return 2
  | .ok invocation =>
    let outcome := invocation.run (← readInput invocation.input)
    if let some text := outcome.output then writeOutput invocation.output text
    match outcome.failure with
    | none => return 0
    | some failure =>
      IO.eprintln ("Error: " ++ failure.message)
      return 1
