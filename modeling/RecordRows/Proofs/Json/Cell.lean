import RecordRows.Json.Row
import RecordRows.Proofs.Calendar.RoundTrip
import RecordRows.Proofs.Decimal.RoundTrip
import RecordRows.Proofs.Json.Inference
import RecordRows.Proofs.Json.Notation
import RecordRows.Proofs.Json.Sorted
/-! What numbers the JSON of a cell has, and what it is coerced back to. -/

namespace RecordRows

theorem integerValue_cases {n : Int} (low : -9223372036854775808 ≤ n)
    (high : n ≤ 9223372036854775807) : (∃ m : Int32, m.toInt = n ∧ integerValue n = .int m) ∨
      ∃ m : Int64, m.toInt = n ∧ integerValue n = .long m := by
  cases short : int32? n with
  | some m => exact .inl ⟨m, (int32?_eq_some_iff.mp short).symm, by rw [integerValue, short]⟩
  | none =>
    obtain ⟨m, rfl⟩ := exists_int64 low high
    exact .inr ⟨m, rfl, by rw [integerValue, short, int64?_toInt]⟩

theorem integerValue_toLong {n : Int} (low : -9223372036854775808 ≤ n)
    (high : n ≤ 9223372036854775807) : (integerValue n).toLong = .ok (some (Int64.ofInt n)) := by
  rcases integerValue_cases low high with ⟨m, rfl, value⟩ | ⟨m, rfl, value⟩
  · rw [value, Value.toLong]
  · rw [value, Value.toLong, Int64.ofInt_toInt]

theorem integerValue_toInt (n : Int32) : (integerValue n.toInt).toInt = .ok (some n) := by
  rw [integerValue, int32?_toInt]
  exact Cell.toInt_int n

theorem integerValue_toLong_self (n : Int64) : (integerValue n.toInt).toLong = .ok (some n) := by
  have low := n.le_toInt
  have high := n.toInt_lt
  rw [integerValue_toLong (by omega) (by omega), Int64.ofInt_toInt]

theorem integerValue_toByte (b : UInt8) : (integerValue b.toNat).toByte = .ok b := by
  have bound := b.toNat_lt
  have long := integerValue_toLong (n := b.toNat) (by omega) (by omega)
  have wide : (Int64.ofInt b.toNat).toInt = b.toNat := Int64.toInt_ofInt_of_le (by omega) (by omega)
  have octet : byte? (Int64.ofInt b.toNat) = some b := by
    rw [byte?_eq_some_iff, wide]
    omega
  simp only [Value.toByte, long, octet]

namespace Cell

theorem itemsToJson_eq (cells : List Cell) : itemsToJson cells = cells.map toJson := by
  induction cells with
  | nil => rfl
  | cons cell cells ih => rw [itemsToJson, ih, List.map_cons]

theorem toBytes_toJson (bs : List UInt8) : (binary bs).toJson.toValue.toBytes = .ok (some bs) := by
  have items : (JsonValue.toValues (bs.map fun b => .integer b.toNat)).mapM Value.toByte =
      .ok bs := by
    induction bs with
    | nil => rfl
    | cons b bs ih =>
      rw [List.map_cons, JsonValue.toValues, JsonValue.toValue, List.mapM_cons,
        integerValue_toByte, ih]
      rfl
  rw [toJson, JsonValue.toValue, Value.toBytes, items]
  rfl

theorem storable_ofDouble (x : Double) : (JsonValue.ofDouble x).Storable := by
  rw [JsonValue.ofDouble]
  split
  · exact .double ‹_›
  · exact .null

mutual

theorem storable_toJson (cell : Cell) : cell.toJson.Storable := by
  cases cell with
  | absent => exact .null
  | boolean b => exact .bool b
  | int n =>
    have low := n.le_toInt
    have high := n.toInt_lt
    exact .integer (by omega) (by omega)
  | long n =>
    have low := n.le_toInt
    have high := n.toInt_lt
    exact .integer (by omega) (by omega)
  | float x => exact storable_ofDouble (x.convert .double)
  | double x => exact storable_ofDouble x
  | decimal | string | date | timestamp => exact .string _
  | binary bs =>
    refine .array fun item member => ?_
    obtain ⟨b, -, rfl⟩ := List.mem_map.mp member
    have bound := b.toNat_lt
    exact .integer (by omega) (by omega)
  | list items => exact .array (storable_itemsToJson items)
  | map entries | struct entries =>
    rw [toJson]
    exact .object fun member inside =>
      storable_entriesToJson entries member (JsonValue.mem_of_mem_sortMembers inside)

theorem storable_itemsToJson (cells : List Cell) : ∀ item ∈ itemsToJson cells, item.Storable := by
  cases cells with
  | nil => exact fun _ => nofun
  | cons cell cells =>
    exact List.forall_mem_cons.mpr ⟨storable_toJson cell, storable_itemsToJson cells⟩

theorem storable_entriesToJson (entries : List (String × Cell)) :
    ∀ member ∈ entriesToJson entries, member.2.Storable := by
  cases entries with
  | nil => exact fun _ => nofun
  | cons entry entries =>
    exact List.forall_mem_cons.mpr ⟨storable_toJson entry.2, storable_entriesToJson entries⟩

end

end Cell

theorem Row.storable_toJson (row : Row) : (Row.toJson row).Storable :=
  .array (Cell.storable_itemsToJson row)

end RecordRows
