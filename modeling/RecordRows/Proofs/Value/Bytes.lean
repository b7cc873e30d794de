import RecordRows.Proofs.Traversal
import RecordRows.Proofs.Value.Null
import RecordRows.Proofs.Value.Range
/-! Bytes from the items of an array: signed and unsigned bytes are taken modulo 256, and the first
item that is neither is an error. -/

namespace RecordRows.Value

/-- The value is coerced to an integer that is a signed or an unsigned byte. -/
def IsOctet (v : Value) : Prop :=
  ∃ n : Int64, v.toLong = .ok (some n) ∧ -128 ≤ n.toInt ∧ n.toInt ≤ 255

/-- The byte is the integer that the value is coerced to, modulo 256. -/
def HasOctet (v : Value) (b : UInt8) : Prop :=
  ∃ n : Int64, v.toLong = .ok (some n) ∧ (-128 ≤ n.toInt ∧ n.toInt ≤ 255) ∧
    (b.toNat : Int) = n.toInt % 256

/-- Why a value has no byte: it is no integer, an integer out of range, or null. -/
inductive Spoils : Value → ValueError → Prop
  | unread {v : Value} {e : ValueError} (failed : v.toLong = .error e) : Spoils v e
  | outside {v : Value} {n : Int64} (long : v.toLong = .ok (some n))
      (far : n.toInt < -128 ∨ 255 < n.toInt) : Spoils v (.outOfRange (Text.intText n.toInt) .byte)
  | null : Spoils .null (.mismatch .byte .null)

theorem isOctet_iff {v : Value} : v.IsOctet ↔ ∃ b, v.HasOctet b := by
  constructor
  · rintro ⟨n, long, inside⟩
    exact ⟨n.toUInt64.toUInt8, n, long, inside, toNat_toUInt8 n⟩
  · rintro ⟨b, n, long, inside, -⟩
    exact ⟨n, long, inside⟩

theorem toByte_eq_ok_iff {v : Value} {b : UInt8} : v.toByte = .ok b ↔ v.HasOctet b := by
  rw [toByte, HasOctet]
  cases v.toLong with
  | error e => simp
  | ok result =>
    cases result with
    | none => simp
    | some n =>
      simp only [Except.ok.injEq, Option.some.injEq, ↓existsAndEq, true_and, ← byte?_eq_some_iff]
      cases byte? n <;> simp

theorem toByte_eq_error_iff {v : Value} {e : ValueError} : v.toByte = .error e ↔ v.Spoils e := by
  constructor
  · intro failed
    rw [toByte] at failed
    split at failed
    · next unread =>
      cases failed
      exact .unread unread
    · next nothing =>
      obtain rfl := toLong_eq_none_iff.mp nothing
      cases failed
      exact .null
    · next n long =>
      split at failed
      · cases failed
      · next missing =>
        cases failed
        exact .outside long (byte?_eq_none_iff.mp missing)
  · intro spoils
    cases spoils with
    | unread failed => rw [toByte, failed]
    | outside long far => simp only [toByte, long, byte?_eq_none_iff.mpr far]
    | null => rfl

theorem toBytes_array_eq_ok_iff {items : List Value} {bs : List UInt8} :
    (array items).toBytes = .ok (some bs) ↔ List.Forall₂ HasOctet items bs := by
  rw [toBytes, map_eq_ok_iff_exists]
  simp only [Option.some.injEq, exists_eq_right', mapM_eq_ok_iff, toByte_eq_ok_iff]

theorem toBytes_array_eq_error_iff {items : List Value} {e : ValueError} :
    (array items).toBytes = .error e ↔ ∃ before v after, items = before ++ v :: after ∧ v.Spoils e ∧
      ∀ u ∈ before, u.IsOctet := by
  rw [toBytes, ← errorOf_eq_some_iff, errorOf_map, errorOf_eq_some_iff, mapM_eq_error_iff]
  simp only [toByte_eq_error_iff, toByte_eq_ok_iff, isOctet_iff]

theorem hasOctet_int (b : UInt8) : (int (Int32.ofInt b.toNat)).HasOctet b := by
  have bound := b.toNat_lt
  have narrow : (Int32.ofInt b.toNat).toInt = b.toNat :=
    Int32.toInt_ofInt_of_le (by omega) (by omega)
  refine ⟨Int64.ofInt (Int32.ofInt b.toNat).toInt, rfl, ?_⟩
  rw [toInt_ofInt_toInt, narrow]
  omega

/-- An array gives bytes exactly if every item is a signed or an unsigned byte, one byte for each
item, and else the error of the first item that is none. The array of bytes gives the bytes. -/
theorem toBytes_array_spec :
    (∀ items : List Value,
      ((∃ bs, (array items).toBytes = .ok (some bs)) ↔ ∀ v ∈ items, v.IsOctet) ∧
      (∀ bs, (array items).toBytes = .ok (some bs) ↔ List.Forall₂ HasOctet items bs) ∧
      (∀ e, (array items).toBytes = .error e ↔ ∃ before v after, items = before ++ v :: after ∧
        v.Spoils e ∧ ∀ u ∈ before, u.IsOctet) ∧
      (array items).toBytes ≠ .ok none) ∧
    ∀ bs, ∃ items, (bytes bs).toArray = .ok (some items) ∧
      (array items).toBytes = .ok (some bs) := by
  constructor
  · intro items
    refine ⟨?_, fun bs => toBytes_array_eq_ok_iff, fun e => toBytes_array_eq_error_iff, ?_⟩
    · simp only [toBytes_array_eq_ok_iff, isOctet_iff, exists_forall₂_iff]
    · rw [toBytes]
      cases items.mapM toByte <;> nofun
  · intro bs
    refine ⟨_, rfl, toBytes_array_eq_ok_iff.mpr ?_⟩
    rw [List.forall₂_map_left_iff, List.forall₂_same]
    intro b _
    exact hasOctet_int b

end RecordRows.Value
