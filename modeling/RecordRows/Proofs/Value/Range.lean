import RecordRows.Value.Coerce
/-! Which integers are ints, longs and bytes. -/

namespace RecordRows

theorem int64?_eq_some_iff {n : Int} {m : Int64} : int64? n = some m ↔ n = m.toInt := by
  have low := m.le_toInt
  have high := m.toInt_lt
  rw [int64?, Option.ite_none_right_eq_some, Option.some.injEq]
  constructor
  · rintro ⟨⟨above, below⟩, rfl⟩
    exact (Int64.toInt_ofInt_of_le (by omega) (by omega)).symm
  · rintro rfl
    exact ⟨⟨by omega, by omega⟩, Int64.ofInt_toInt m⟩

theorem int64?_eq_none_iff {n : Int} :
    int64? n = none ↔ ¬ (-9223372036854775808 ≤ n ∧ n ≤ 9223372036854775807) := by
  rw [int64?, ite_eq_right_iff, imp_congr_right fun _ => iff_false_intro (Option.some_ne_none _)]

theorem int32?_eq_some_iff {n : Int} {m : Int32} : int32? n = some m ↔ n = m.toInt := by
  have low := m.le_toInt
  have high := m.toInt_lt
  rw [int32?, Option.ite_none_right_eq_some, Option.some.injEq]
  constructor
  · rintro ⟨⟨above, below⟩, rfl⟩
    exact (Int32.toInt_ofInt_of_le (by omega) (by omega)).symm
  · rintro rfl
    exact ⟨⟨by omega, by omega⟩, Int32.ofInt_toInt m⟩

theorem int32?_eq_none_iff {n : Int} : int32? n = none ↔ ¬ (-2147483648 ≤ n ∧ n ≤ 2147483647) := by
  rw [int32?, ite_eq_right_iff, imp_congr_right fun _ => iff_false_intro (Option.some_ne_none _)]

theorem int64?_toInt (n : Int64) : int64? n.toInt = some n := int64?_eq_some_iff.mpr rfl

theorem int32?_toInt (n : Int32) : int32? n.toInt = some n := int32?_eq_some_iff.mpr rfl

theorem exists_int64 {n : Int} (low : -9223372036854775808 ≤ n) (high : n ≤ 9223372036854775807) :
    ∃ m : Int64, m.toInt = n :=
  ⟨Int64.ofInt n, Int64.toInt_ofInt_of_le (by omega) (by omega)⟩

theorem exists_int32 {n : Int} (low : -2147483648 ≤ n) (high : n ≤ 2147483647) :
    ∃ m : Int32, m.toInt = n :=
  ⟨Int32.ofInt n, Int32.toInt_ofInt_of_le (by omega) (by omega)⟩

theorem toInt_emod_octet (n : Int64) : n.toInt % 256 = (n.toBitVec.toNat % 256 : Nat) := by
  have bits : n.toInt = n.toBitVec.toInt := rfl
  rw [bits, BitVec.toInt_eq_toNat_cond]
  split <;> omega

theorem toNat_toUInt8 (n : Int64) : (n.toUInt64.toUInt8.toNat : Int) = n.toInt % 256 := by
  rw [toInt_emod_octet]
  rfl

theorem toNat_toInt8 (n : Int64) : (n.toInt8.toUInt8.toNat : Int) = n.toInt % 256 := by
  have bits : n.toInt8.toUInt8.toNat = (n.toBitVec.signExtend 8).toNat := rfl
  rw [bits, BitVec.signExtend_eq_setWidth_of_le _ (by decide), BitVec.toNat_setWidth,
    toInt_emod_octet]

/-- Both casts of a byte take the number modulo 256. -/
theorem byte?_eq_some_iff {n : Int64} {b : UInt8} :
    byte? n = some b ↔ (-128 ≤ n.toInt ∧ n.toInt ≤ 255) ∧ (b.toNat : Int) = n.toInt % 256 := by
  have least : (-128 : Int64).toInt = -128 := rfl
  have minusOne : (-1 : Int64).toInt = -1 := rfl
  have zero : (0 : Int64).toInt = 0 := rfl
  have greatest : (255 : Int64).toInt = 255 := rfl
  have octet {c : UInt8} (value : (c.toNat : Int) = n.toInt % 256) :
      c = b ↔ (b.toNat : Int) = n.toInt % 256 := by
    rw [← value, Int.natCast_inj, UInt8.toNat_inj, eq_comm]
  simp only [byte?, Int64.le_iff_toInt_le, least, minusOne, zero, greatest]
  split
  · next negative =>
    rw [Option.some_inj, octet (toNat_toInt8 n), iff_and_self]
    omega
  · next other =>
    rw [Option.ite_none_right_eq_some, Option.some_inj, octet (toNat_toUInt8 n)]
    apply and_congr_left'
    omega

theorem byte?_eq_none_iff {n : Int64} : byte? n = none ↔ n.toInt < -128 ∨ 255 < n.toInt := by
  rw [Option.eq_none_iff_forall_ne_some]
  constructor
  · intro missing
    apply Decidable.byContradiction
    intro inside
    have own := byte?_eq_some_iff.mpr ⟨by omega, toNat_toUInt8 n⟩
    exact missing _ own
  · intro far b found
    have inside := (byte?_eq_some_iff.mp found).1
    omega

theorem toInt_ofInt_toInt (n : Int32) : (Int64.ofInt n.toInt).toInt = n.toInt := by
  have low := n.le_toInt
  have high := n.toInt_lt
  exact Int64.toInt_ofInt_of_le (by omega) (by omega)

theorem Value.toInt_of_toLong {v : Value} {n : Int32}
    (long : v.toLong = .ok (some (Int64.ofInt n.toInt))) : v.toInt = .ok (some n) := by
  simp only [toInt, long, toInt_ofInt_toInt, int32?_toInt, orError]

end RecordRows
