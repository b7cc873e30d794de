import Mathlib.Data.List.Forall2
/-! Going through a list up to the first error. -/

namespace RecordRows

variable {α β ε : Type}

def errorOf : Except ε α → Option ε
  | .error e => some e
  | .ok _ => none

theorem errorOf_eq_some_iff {result : Except ε α} {e : ε} :
    errorOf result = some e ↔ result = .error e := by
  cases result <;> simp [errorOf]

@[simp] theorem errorOf_map (f : α → β) (result : Except ε α) :
    errorOf (result.map f) = errorOf result := by
  cases result <;> rfl

theorem map_eq_ok_iff_exists {f : α → β} {result : Except ε α} {b : β} :
    result.map f = .ok b ↔ ∃ a, result = .ok a ∧ b = f a := by
  cases result <;> simp [Except.map, eq_comm]

theorem mapM_eq_ok_iff {f : α → Except ε β} {xs : List α} {ys : List β} :
    xs.mapM f = .ok ys ↔ List.Forall₂ (fun x y => f x = .ok y) xs ys := by
  induction xs generalizing ys with
  | nil => cases ys <;> simp [pure, Except.pure]
  | cons x xs ih =>
    rw [List.mapM_cons]
    cases first : f x with
    | error e => cases ys <;> simp [bind, Except.bind, first]
    | ok y =>
      cases rest : xs.mapM f <;> cases ys
        <;> simp [bind, Except.bind, pure, Except.pure, ← ih, first, rest]

theorem errorOf_mapM (f : α → Except ε β) (xs : List α) :
    errorOf (xs.mapM f) = xs.findSome? fun x => errorOf (f x) := by
  induction xs with
  | nil => rfl
  | cons x xs ih =>
    rw [List.mapM_cons, List.findSome?_cons, ← ih]
    cases f x with
    | error e => rfl
    | ok y => cases xs.mapM f <;> rfl

/-- The error is that of the first item that has one. -/
theorem mapM_eq_error_iff {f : α → Except ε β} {xs : List α} {e : ε} :
    xs.mapM f = .error e ↔ ∃ before x after, xs = before ++ x :: after ∧ f x = .error e ∧
      ∀ y ∈ before, ∃ b, f y = .ok b := by
  have passes (y : α) : errorOf (f y) = none ↔ ∃ b, f y = .ok b := by
    cases f y <;> simp [errorOf]
  rw [← errorOf_eq_some_iff, errorOf_mapM, List.findSome?_eq_some_iff]
  simp only [errorOf_eq_some_iff, passes]

theorem findSome?_cons_or (f : α → Option β) (x : α) (xs : List α) :
    (x :: xs).findSome? f = (f x).or (xs.findSome? f) := by
  cases first : f x <;> simp [first]

theorem findSome?_flatMap (f : β → Option ε) (g : α → List β) (xs : List α) :
    (xs.flatMap g).findSome? f = xs.findSome? fun x => (g x).findSome? f := by
  induction xs with
  | nil => rfl
  | cons x xs ih => rw [List.flatMap_cons, List.findSome?_append, ih, findSome?_cons_or]

theorem exists_of_forall₂ {related : α → β → Prop} {xs : List α} {ys : List β}
    (each : List.Forall₂ related xs ys) {y : β} (member : y ∈ ys) : ∃ x, related x y := by
  induction each with
  | nil => cases member
  | cons first _ ih =>
    cases member with
    | head => exact ⟨_, first⟩
    | tail _ member => exact ih member

theorem exists_forall₂_iff {related : α → β → Prop} {xs : List α} :
    (∃ ys, List.Forall₂ related xs ys) ↔ ∀ x ∈ xs, ∃ y, related x y := by
  induction xs with
  | nil => exact ⟨nofun, fun _ => ⟨[], .nil⟩⟩
  | cons x xs ih =>
    rw [List.forall_mem_cons, ← ih]
    constructor
    · rintro ⟨_, first | ⟨first, rest⟩⟩
      exact ⟨⟨_, first⟩, _, rest⟩
    · rintro ⟨⟨y, first⟩, ys, rest⟩
      exact ⟨y :: ys, .cons first rest⟩

end RecordRows
