import RecordRows.Binary.Shortest
/-! JSON values and their compact text. -/

namespace RecordRows

/-- A JSON value. The members of an object are sorted by name, each name once. -/
inductive JsonValue where
  | null
  | bool (b : Bool)
  | integer (n : Int)
  | double (x : Double)
  | string (s : String)
  | array (items : List JsonValue)
  | object (members : List (String × JsonValue))

namespace JsonValue

def isNull : JsonValue → Bool
  | null => true
  | _ => false

def insertMember {α : Type} (members : List (String × α)) (name : String) (a : α) :
    List (String × α) :=
  match members with
  | [] => [(name, a)]
  | (other, b) :: members =>
    if name = other then (name, a) :: members
    else if name < other then (name, a) :: (other, b) :: members
    else (other, b) :: insertMember members name a

def sortMembers {α : Type} (members : List (String × α)) : List (String × α) :=
  members.foldl (fun sorted (name, a) => insertMember sorted name a) []

end JsonValue

end RecordRows
