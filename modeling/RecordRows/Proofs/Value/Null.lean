import RecordRows.Value.Coerce
/-! Null is the only value that is coerced to nothing. -/

namespace RecordRows

@[simp] theorem orError_ne_none {α : Type} (error : ValueError) (result : Option α) :
    orError error result ≠ .ok none := by
  cases result <;> simp [orError]

@[simp] theorem readText_ne_none {α : Type} (target : Target) (read? : List Char → Option α)
    (s : String) : readText target read? s ≠ .ok none := orError_ne_none _ _

@[simp] theorem map_eq_none_iff {α β : Type} (f : α → β) (result : Coerced α) :
    result.map (·.map f) = .ok none ↔ result = .ok none := by
  cases result with
  | error e => simp [Except.map]
  | ok value => cases value <;> simp [Except.map]

namespace Value

@[simp] theorem mismatch_ne_ok {α : Type} (wanted : Wanted) (v : Value) (a : α) :
    v.mismatch wanted ≠ .ok a := nofun

theorem toLong_eq_none_iff {v : Value} : v.toLong = .ok none ↔ v = .null := by
  cases v <;> simp [toLong, doubleToLong]

theorem toInt_eq_none_iff {v : Value} : v.toInt = .ok none ↔ v = .null := by
  rw [← toLong_eq_none_iff, toInt]
  split
  · next refused => simp [refused]
  · next none => simp [none]
  · next n some => simp [some]

theorem toBool_eq_none_iff {v : Value} : v.toBool = .ok none ↔ v = .null := by
  cases v <;> simp [toBool]

theorem toDouble_eq_none_iff {v : Value} : v.toDouble = .ok none ↔ v = .null := by
  cases v <;> simp [toDouble]

theorem toFloat_eq_none_iff {v : Value} : v.toFloat = .ok none ↔ v = .null := by
  cases v <;> simp [toFloat, toDouble_eq_none_iff]

theorem toDecimal_eq_none_iff {v : Value} : v.toDecimal = .ok none ↔ v = .null := by
  cases v <;> simp [toDecimal]

theorem toText_eq_none_iff {v : Value} : v.toText = .ok none ↔ v = .null := by
  cases v <;> simp [toText, isCompound]

theorem numberToTimestamp_eq_none_iff {v : Value} : v.numberToTimestamp = .ok none ↔ v = .null := by
  rw [← toLong_eq_none_iff, numberToTimestamp]
  split
  · next refused => simp [refused]
  · next none => simp [none]
  · next n some => simp [some, ofEpochMilli]

theorem toDate_eq_none_iff {v : Value} {format : Option String} :
    v.toDate format = .ok none ↔ v = .null := by
  cases v <;> simp [toDate, numberToTimestamp_eq_none_iff]

theorem toTimestamp_eq_none_iff {v : Value} {format : Option String} :
    v.toTimestamp format = .ok none ↔ v = .null := by
  cases v <;> simp [toTimestamp, numberToTimestamp_eq_none_iff]

end Value

end RecordRows
