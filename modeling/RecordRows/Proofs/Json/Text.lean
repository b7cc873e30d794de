import Mathlib.Tactic.SplitIfs
import RecordRows.Json.Row
import RecordRows.Proofs.Text.OneLine
/-! The text of a JSON value stands on one line. -/

namespace RecordRows

open Text

theorem Digits.oneLine_scientific {d : Digits} (digits : OneLine d.digits) :
    OneLine d.scientific := by
  rw [scientific]
  split
  · exact List.not_mem_nil
  · next c same => exact same ▸ digits
  · next c cs _ same =>
    rw [same] at digits
    simp only [OneLine, List.mem_cons, not_or] at digits ⊢
    exact ⟨digits.1, by decide, digits.2⟩

theorem Digits.oneLine_positional {d : Digits} (digits : OneLine d.digits) :
    OneLine d.positional := by
  rw [positional]
  split
  · exact (OneLine.append (by decide) (oneLine_replicate_zero _)).append digits
  · split
    · exact digits.append (oneLine_replicate_zero _)
    · have front : OneLine (d.digits.take d.point.toNat) :=
        fun member => digits (List.mem_of_mem_take member)
      have back : OneLine (d.digits.drop d.point.toNat) :=
        fun member => digits (List.mem_of_mem_drop member)
      exact front.append (back.cons (by decide))

theorem Digits.oneLine_jsonText {d : Digits} (digits : OneLine d.digits) : OneLine d.jsonText := by
  rw [jsonText]
  split
  · apply (oneLine_positional digits).append
    split <;> decide
  · apply (oneLine_scientific digits).append
    apply OneLine.cons (by decide)
    apply OneLine.cons
    · split <;> decide
    · exact oneLine_natChars _

theorem Binary.oneLine_shortest {w : Width} (x : Binary w) : OneLine x.shortest.digits := by
  intro member
  have inside := List.mem_reverse.mp member
  have digit := List.mem_reverse.mp ((List.dropWhile_sublist _).subset inside)
  exact oneLine_natChars _ digit

theorem Binary.oneLine_jsonText (x : Double) : OneLine x.jsonText := by
  rw [jsonText]
  split
  · decide
  · apply OneLine.append
    · split <;> decide
    · split
      · decide
      · exact Digits.oneLine_jsonText (oneLine_shortest x)

namespace JsonValue

theorem oneLine_escapeChar (c : Char) : OneLine (escapeChar c) := by
  have hex : ∀ n < 0x20, OneLine (hexDigits n) := by decide
  rw [escapeChar]
  split_ifs with quote slash line
  · decide
  · decide
  · decide
  · decide
  · decide
  · decide
  · decide
  · exact (OneLine.append (by decide) (by decide)).append (hex _ ‹_›)
  · exact (OneLine.append (by decide) (by decide)).append (hex _ ‹_›)
  · exact OneLine.cons line List.not_mem_nil

theorem oneLine_stringChars (s : String) : OneLine (stringChars s) := by
  have inner : OneLine (s.toList.flatMap escapeChar) := by
    intro member
    rcases List.mem_flatMap.mp member with ⟨c, -, escaped⟩
    exact oneLine_escapeChar c escaped
  exact (inner.cons (by decide)).append (by decide)

mutual

theorem oneLine_chars (v : JsonValue) : OneLine v.chars := by
  cases v with
  | null =>
    rw [chars]
    decide
  | bool b =>
    rw [chars]
    cases b <;> decide
  | integer n =>
    rw [chars]
    exact oneLine_intChars n
  | double x =>
    rw [chars]
    exact x.oneLine_jsonText
  | string s =>
    rw [chars]
    exact oneLine_stringChars s
  | array items =>
    rw [chars]
    exact ((oneLine_itemChars items).cons (by decide)).append (by decide)
  | object members =>
    rw [chars]
    exact ((oneLine_memberChars members).cons (by decide)).append (by decide)

theorem oneLine_itemChars (items : List JsonValue) : OneLine (itemChars items) := by
  cases items with
  | nil => exact List.not_mem_nil
  | cons item items =>
    cases items with
    | nil =>
      rw [itemChars]
      exact oneLine_chars item
    | cons next items =>
      rw [itemChars]
      exact (oneLine_chars item).append ((oneLine_itemChars (next :: items)).cons (by decide))

theorem oneLine_memberChars (members : List (String × JsonValue)) :
    OneLine (memberChars members) := by
  cases members with
  | nil => exact List.not_mem_nil
  | cons member members =>
    have own : OneLine (stringChars member.1 ++ ':' :: member.2.chars) :=
      (oneLine_stringChars member.1).append ((oneLine_chars member.2).cons (by decide))
    cases members with
    | nil =>
      rw [memberChars]
      exact own
    | cons next members =>
      rw [memberChars]
      exact own.append ((oneLine_memberChars (next :: members)).cons (by decide))

end

end JsonValue

end RecordRows
