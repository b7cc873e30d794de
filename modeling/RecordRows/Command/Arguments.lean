import RecordRows.Command.Convert
import RecordRows.Command.Schema
/-! The arguments of the command line. -/

namespace RecordRows.Command

structure Arguments where
  options : List (String × String)
  others : List String

def flags : List String := ["--skip-invalid"]

def longName (name : String) : String :=
  ([("-c", "--columns"), ("-t", "--types"), ("-o", "--output")].lookup name).getD name

def assigned? (argument : String) : Option (String × String) :=
  match argument.toList.dropWhile (· ≠ '=') with
  | _ :: value => some (String.ofList (argument.toList.takeWhile (· ≠ '=')), String.ofList value)
  | [] => none

def Arguments.ofList : List String → Except String Arguments
  | [] => .ok ⟨[], []⟩
  | argument :: rest =>
    if flags.contains argument then
      (ofList rest).map fun args => { args with options := (argument, "") :: args.options }
    else if !argument.startsWith "-" then
      (ofList rest).map fun args => { args with others := argument :: args.others }
    else
      match assigned? argument, rest with
      | some (name, value), rest =>
        (ofList rest).map fun args =>
          { args with options := (longName name, value) :: args.options }
      | none, value :: rest =>
        (ofList rest).map fun args =>
          { args with options := (longName argument, value) :: args.options }
      | none, [] => .error ("no value for " ++ argument)

namespace Arguments

def required (args : Arguments) (name : String) : Except String String :=
  match args.options.lookup name with
  | some value => .ok value
  | none => .error ("missing " ++ name)

def decimalMode (args : Arguments) : Except String (Option DecimalMode) :=
  match args.options.lookup "--decimal-mode" with
  | none => .ok none
  | some value =>
    match DecimalMode.read? value with
    | some mode => .ok (some mode)
    | none => .error (DecimalMode.unknownMessage value)

def table (args : Arguments) : Except String TableArguments := do
  return {
    columns := ← args.required "--columns"
    types := ← args.required "--types"
    delimiter := args.options.lookup "--delimiter"
    timestampFormats := args.options.lookup "--timestamp-formats"
    decimalMode := ← args.decimalMode }

end Arguments

structure Invocation where
  run : Option (List UInt8) → Outcome
  input : String
  output : Option String

def Invocation.ofList (arguments : List String) : Except String Invocation := do
  let args ← Arguments.ofList arguments
  let table ← args.table
  let output := args.options.lookup "--output"
  match args.others with
  | ["convert", input] =>
    return ⟨convert table (args.options.lookup "--skip-invalid").isSome input, input, output⟩
  | ["schema", input] => return ⟨schema table input, input, output⟩
  | _ => .error "expected convert or schema and an input file"

end RecordRows.Command
