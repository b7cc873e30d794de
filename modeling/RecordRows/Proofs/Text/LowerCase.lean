import RecordRows.Text.LowerCase
/-! Lower case is settled: no character of a text in lower case has another lower case. -/

namespace RecordRows.Text

/-- No image of the first run is mapped by the second one: they lie apart, or every second code
point of a range is mapped and the images are the others. -/
def CaseRun.avoids (run other : CaseRun) : Bool :=
  Nat.blt (run.image + (run.last - run.first)) other.first || Nat.blt other.last run.image ||
    (other.step == 2 && (run.step == 2 || run.first == run.last) &&
      (run.image + other.first) % 2 == 1)

theorem map?_eq_none_of_avoids {run other : CaseRun} (avoids : run.avoids other) {n m : Nat}
    (mapped : run.map? n = some m) : other.map? m = none := by
  simp only [CaseRun.map?, Option.ite_none_right_eq_some, Option.some.injEq] at mapped
  rcases mapped with ⟨⟨low, high, steps⟩, rfl⟩
  simp only [CaseRun.map?, ite_eq_right_iff, reduceCtorEq, imp_false, not_and]
  intro above below
  simp only [CaseRun.avoids, Bool.or_eq_true, Bool.and_eq_true, Nat.blt_eq, beq_iff_eq] at avoids
  rcases avoids with (apart | apart) | ⟨⟨double, same | single⟩, odd⟩
  · omega
  · omega
  · rw [same] at steps
    rw [double]
    omega
  · rw [double]
    omega

def dottedRun : CaseRun := ⟨0x130, 0x130, 1, 0x69⟩

theorem caseRuns_avoid :
    caseRuns.all fun run => (dottedRun :: caseRuns).all fun other => run.avoids other := by
  decide +kernel

def Settled (c : Char) : Prop := c ≠ 'Σ' ∧ lowerChar c = [c]

instance (c : Char) : Decidable (Settled c) := inferInstanceAs (Decidable (_ ∧ _))

theorem settled_of_unmapped {c : Char} (undotted : c ≠ 'İ')
    (unmapped : ∀ run ∈ caseRuns, run.map? c.toNat = none) : Settled c := by
  have none : caseRuns.findSome? (·.map? c.toNat) = none := List.findSome?_eq_none_iff.mpr unmapped
  constructor
  · intro final
    subst final
    exact absurd none (by decide)
  · rw [lowerChar, if_neg undotted, none]

theorem unmapped_of_lt {n : Nat} (low : n < 0x41) : ∀ run ∈ caseRuns, run.map? n = none := by
  intro run member
  have start : ∀ run ∈ caseRuns, 0x41 ≤ run.first := by decide +kernel
  have above := start run member
  rw [CaseRun.map?, if_neg (by omega)]

theorem settled_of_image {n m : Nat} {run : CaseRun} (member : run ∈ caseRuns)
    (mapped : run.map? n = some m) : Settled (Char.ofNat m) := by
  have avoids := List.all_eq_true.mp (List.all_eq_true.mp caseRuns_avoid run member)
  by_cases valid : m.isValidChar
  · have value : (Char.ofNat m).toNat = m := by
      rw [Char.ofNat, dif_pos valid]
      rfl
    apply settled_of_unmapped
    · intro dotted
      have apart := map?_eq_none_of_avoids (avoids dottedRun List.mem_cons_self) mapped
      rw [← value, dotted] at apart
      exact absurd apart (by decide)
    · rw [value]
      intro other found
      exact map?_eq_none_of_avoids (avoids other (List.mem_cons_of_mem _ found)) mapped
  · have value : (Char.ofNat m).toNat = 0 := by
      rw [Char.ofNat, dif_neg valid]
      rfl
    apply settled_of_unmapped
    · intro dotted
      rw [dotted] at value
      exact absurd value (by decide)
    · rw [value]
      exact unmapped_of_lt (by decide)

theorem settled_lowerChar (c : Char) : ∀ d ∈ lowerChar c, Settled d := by
  intro d member
  rw [lowerChar] at member
  split at member
  · simp only [List.mem_cons, List.not_mem_nil, or_false] at member
    rcases member with rfl | rfl <;> decide
  · next undotted =>
    split at member
    · next m found =>
      rcases List.exists_of_findSome?_eq_some found with ⟨run, present, mapped⟩
      obtain rfl : d = Char.ofNat m := by simpa using member
      exact settled_of_image present mapped
    · next unmapped =>
      obtain rfl : d = c := by simpa using member
      exact settled_of_unmapped undotted (List.findSome?_eq_none_iff.mp unmapped)

theorem settled_lowerAfter (cs before : List Char) : ∀ c ∈ lowerAfter before cs, Settled c := by
  induction cs generalizing before with
  | nil => simp [lowerAfter]
  | cons c cs ih =>
    intro d member
    rw [lowerAfter] at member
    rcases List.mem_append.mp member with head | tail
    · split at head
      · split at head <;>
          (obtain rfl := List.mem_singleton.mp head; decide)
      · exact settled_lowerChar c d head
    · exact ih _ d tail

theorem lowerAfter_settled {cs : List Char} (settled : ∀ c ∈ cs, Settled c) (before : List Char) :
    lowerAfter before cs = cs := by
  induction cs generalizing before with
  | nil => rfl
  | cons c cs ih =>
    rcases settled c List.mem_cons_self with ⟨other, same⟩
    rw [lowerAfter, if_neg other, same,
      ih fun d member => settled d (List.mem_cons_of_mem c member)]
    rfl

theorem lowerCase_settled {s : String} (settled : ∀ c ∈ s.toList, Settled c) : lowerCase s = s := by
  rw [lowerCase, lowerAfter_settled settled, String.ofList_toList]

theorem lowerCase_lowerCase (s : String) : lowerCase (lowerCase s) = lowerCase s := by
  apply lowerCase_settled
  rw [lowerCase, String.toList_ofList]
  exact settled_lowerAfter s.toList []

end RecordRows.Text
