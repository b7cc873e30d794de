import RecordRows.Proofs.Session.Conversion
/-! Runs of a session: each record is converted as by a fresh session, and only the count of the
rows is kept. -/

namespace RecordRows.Session

variable {properties : Properties} {source : Schema} {s : Session} {r : Record}

def run (s : Session) : List Record → List (Except ConversionError Row) × Session
  | [] => ([], s)
  | r :: records =>
    let (result, next) := s.step r
    let (results, last) := run next records
    (result :: results, last)

def counted (s : Session) (rows : UInt64) : Session := { s with rows }

theorem convertField_counted (s : Session) (rows : UInt64) (r : Record) (field : Field DataType)
    (type : ColumnType) :
    (s.counted rows).convertField r field type = s.convertField r field type := by
  cases type with
  | primitive p => cases p <;> rfl
  | array | map | struct | union => rfl

theorem fill_counted (s : Session) (rows : UInt64) (r : Record) (row : Row)
    (fields : List (Field DataType)) :
    (s.counted rows).fill r row fields = s.fill r row fields := by
  induction fields generalizing row with
  | nil => rfl
  | cons field fields ih =>
    simp only [fill, convertField_counted, ih]
    rfl

theorem convert_counted (s : Session) (rows : UInt64) (r : Record) :
    (s.counted rows).convert r = s.convert r :=
  fill_counted s rows r _ _

theorem step_fst (s : Session) (r : Record) : (s.step r).1 = s.convert r := by
  cases result : s.convert r with
  | ok row => rw [step_of_ok result]
  | error e => rw [step_of_error result]

theorem step_snd (s : Session) (r : Record) :
    (s.step r).2 = s.counted (s.rows + .ofNat (if (s.convert r).isOk then 1 else 0)) := by
  cases result : s.convert r with
  | ok row =>
    rw [step_of_ok result]
    rfl
  | error e =>
    have same : s.rows + .ofNat 0 = s.rows := UInt64.add_zero s.rows
    rw [step_of_error result, counted]
    exact congrArg (fun rows => { s with rows }) same.symm

theorem run_cons (s : Session) (r : Record) (records : List Record) :
    s.run (r :: records) =
      ((s.step r).1 :: ((s.step r).2.run records).1, ((s.step r).2.run records).2) :=
  rfl

theorem run_eq (s : Session) (records : List Record) :
    s.run records = (records.map s.convert,
      s.counted (s.rows + .ofNat ((records.map s.convert).countP (·.isOk)))) := by
  induction records generalizing s with
  | nil => simp [run, counted]
  | cons r records ih =>
    have same (rows : UInt64) : (s.counted rows).convert = s.convert :=
      funext fun record => convert_counted s rows record
    rw [run_cons, ih, step_fst, step_snd, same, List.map_cons, List.countP_cons]
    simp only [counted]
    rw [UInt64.add_assoc, ← UInt64.ofNat_add, Nat.add_comm (if (s.convert r).isOk then 1 else 0)]

/-- A run after a start gives for each record what a fresh session gives for it alone. At any
point of the run the session is that of the start, but for the count of the rows so far, which is
a word. -/
theorem run_fresh (started : start properties source = .ok s) (records : List Record) :
    (∀ fresh, start properties source = .ok fresh →
      (s.run records).1 = records.map fun r => (fresh.step r).1) ∧
    ∀ done accepted, ((s.run records).1.take done).countP (·.isOk) = accepted →
      (s.run (records.take done)).2 = { s with rows := .ofNat accepted } ∧
      (accepted < UInt64.size → (s.run (records.take done)).2.rowCount = accepted) := by
  constructor
  · intro fresh again
    cases started.symm.trans again
    simp only [run_eq, step_fst]
  · rintro done accepted rfl
    have zero := (start_ok started).2
    rw [run_eq, run_eq, zero, UInt64.zero_add, List.map_take]
    exact ⟨rfl, UInt64.toNat_ofNat_of_lt⟩

def sparse : Record := { repeated with values := [("other", .int 1)] }

theorem run_fresh_visits :
    start visitProperties Positions.feed = .ok visitSession ∧
    (visitSession.run [repeated, refused, sparse]).1 =
      [repeated, refused, sparse].map (fun r => (visitSession.step r).1) ∧
    (visitSession.run [repeated, refused, sparse]).2 = { visitSession with rows := 2 } ∧
    (visitSession.run [repeated, refused, sparse]).2.rowCount = 2 := by
  rcases run_fresh start_visits [repeated, refused, sparse] with ⟨fresh, kept⟩
  refine ⟨start_visits, fresh visitSession start_visits, ?_⟩
  have counted := kept 3 2 (by rfl)
  exact ⟨counted.1, counted.2 (by decide)⟩

end RecordRows.Session
