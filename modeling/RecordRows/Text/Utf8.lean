/-! UTF-8: the octets of a text and the text of octets. -/

namespace RecordRows.Text.Utf8

def encode (s : String) : List UInt8 := s.toList.flatMap String.utf8EncodeChar

/-- A character under way: `owed` octets are to come, the next of them from `lo` to `hi`, and
`point` is the code point as far as it is read. -/
structure Pending where
  owed : Nat
  lo : Nat
  hi : Nat
  point : Nat

inductive Lead where
  | ascii (c : Char)
  | opens (p : Pending)
  | refused

/-- Overlong forms, surrogates and points past U+10FFFF are refused at the first octet that shows
them, so the range of the second octet depends on the first one. -/
def lead (b : Nat) : Lead :=
  if b ≤ 0x7f then .ascii (Char.ofNat b)
  else if 0xc2 ≤ b ∧ b ≤ 0xdf then .opens ⟨1, 0x80, 0xbf, b - 0xc0⟩
  else if b = 0xe0 then .opens ⟨2, 0xa0, 0xbf, 0⟩
  else if b = 0xed then .opens ⟨2, 0x80, 0x9f, 0xd⟩
  else if 0xe1 ≤ b ∧ b ≤ 0xef then .opens ⟨2, 0x80, 0xbf, b - 0xe0⟩
  else if b = 0xf0 then .opens ⟨3, 0x90, 0xbf, 0⟩
  else if 0xf1 ≤ b ∧ b ≤ 0xf3 then .opens ⟨3, 0x80, 0xbf, b - 0xf0⟩
  else if b = 0xf4 then .opens ⟨3, 0x80, 0x8f, 4⟩
  else .refused

def begins (b : Nat) : List (Option Char) × Option Pending :=
  match lead b with
  | .ascii c => ([some c], none)
  | .opens p => ([], some p)
  | .refused => ([none], none)

/-- The characters of an octet sequence, with `none` for each maximal part that is no beginning of
a character. -/
def pieces : Option Pending → List UInt8 → List (Option Char)
  | none, [] => []
  | some _, [] => [none]
  | none, b :: bs => (begins b.toNat).1 ++ pieces (begins b.toNat).2 bs
  | some p, b :: bs =>
    if p.lo ≤ b.toNat ∧ b.toNat ≤ p.hi then
      let point := p.point * 64 + (b.toNat - 0x80)
      if p.owed ≤ 1 then some (Char.ofNat point) :: pieces none bs
      else pieces (some ⟨p.owed - 1, 0x80, 0xbf, point⟩) bs
    else none :: (begins b.toNat).1 ++ pieces (begins b.toNat).2 bs

def decode? (bs : List UInt8) : Option String :=
  ((pieces none bs).mapM id).map String.ofList

def decodeLossy (bs : List UInt8) : String :=
  String.ofList ((pieces none bs).map (·.getD '\ufffd'))

end RecordRows.Text.Utf8
