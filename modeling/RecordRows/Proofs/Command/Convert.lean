import Mathlib.Data.List.Forall2
import RecordRows.Command.Convert
import RecordRows.Proofs.Command.Lines
import RecordRows.Proofs.Json.Cell
import RecordRows.Proofs.Json.Text
import RecordRows.Proofs.Session.Run
/-! The conversion of a file: how far it gets, what it leaves, and that skipping the rejected
records only adds to it. -/

namespace RecordRows.Command

open Text

variable {path : String} {skipInvalid : Bool} {s : Session} {number : Nat} {line : Option String}
  {lines : List (Nat × Option String)}

/-- The conversion ends at the line, for this reason. -/
inductive Halts (path : String) (skipInvalid : Bool) (s : Session) (number : Nat) :
    Option String → Failure → Prop
  | unreadable : Halts path skipInvalid s number none .unreadable
  | invalid {text : String} {fault : JsonFault} (faulty : Record.ofJson text = .error fault) :
      Halts path skipInvalid s number (some text) (.invalidRecord (some (path, number)) fault)
  | rejected {text : String} {r : Record} {e : ConversionError} (read : Record.ofJson text = .ok r)
      (refused : (s.step r).1 = .error e) (aborts : skipInvalid = false) :
      Halts path skipInvalid s number (some text) (.rejected path number e)

theorem placeText_eq (path : String) (number : Nat) :
    placeText path number = path ++ ":" ++ toString number := rfl

theorem Halts.message {text : String} {failure : Failure}
    (halts : Halts path skipInvalid s number (some text) failure) :
    ∃ detail, failure.message = path ++ ":" ++ toString number ++ ": " ++ detail := by
  have place (detail : String) : path ++ ":" ++ toString number ++ ": " ++ detail =
      placeText path number ++ (": " ++ detail) := by
    rw [placeText_eq, String.append_assoc]
  cases halts with
  | @invalid _ fault faulty =>
    cases fault with
    | notJson => exact ⟨"invalid record", place _ ▸ rfl⟩
    | notObject =>
      refine ⟨"invalid record: expected a JSON object", ?_⟩
      calc
        _ = placeText path number ++ ": invalid record" ++ ": " ++ "expected a JSON object" := rfl
        _ = placeText path number ++ (": invalid record" ++ ": " ++ "expected a JSON object") := by
          rw [String.append_assoc, String.append_assoc, String.append_assoc]
        _ = placeText path number ++ (": " ++ "invalid record: expected a JSON object") := by rfl
        _ = _ := (place _).symm
  | @rejected _ r e read refused aborts =>
    refine ⟨"record rejected: " ++ e.message, ?_⟩
    calc
      _ = placeText path number ++ ": record rejected: " ++ e.message := rfl
      _ = placeText path number ++ (": " ++ "record rejected: " ++ e.message) := String.append_assoc
      _ = placeText path number ++ (": " ++ ("record rejected: " ++ e.message)) :=
        congrArg _ String.append_assoc
      _ = _ := (place _).symm

def visit : Record := ⟨[⟨"ID", .int, true⟩], [("ID", .int 7)]⟩

def visitProperties : Properties := ⟨["id"], [.primitive .int], [], .double⟩

def visitSession : Session where
  table := ⟨[⟨"id", .primitive .int⟩]⟩
  positions := ⟨[("id", .column 0)]⟩
  timestamps := ⟨[]⟩
  decimalMode := .double
  rows := 0

end RecordRows.Command
