import FormLetter.Csv.Quoting

/-!
Runs of the quote check. Which line a fault is reported for has no part in whether a text is
accepted, so acceptance is a property of the states alone.
-/
namespace FormLetter.Csv.Quoting

/-- The state after a text, or the first fault in it. -/
def run (separator : Char) (state : State) (text : List Char) : Except Fault State :=
  text.foldlM (step separator) state

variable {separator : Char}

@[simp] theorem run_nil (q : State) : run separator q [] = .ok q := rfl

theorem run_cons_ok {q next : State} {c : Char} (moved : step separator q c = .ok next)
    (rest : List Char) : run separator q (c :: rest) = run separator next rest := by
  simp only [run, List.foldlM_cons, moved]
  rfl

theorem run_append {q next : State} {xs : List Char} (moved : run separator q xs = .ok next)
    (ys : List Char) : run separator q (xs ++ ys) = run separator next ys := by
  rw [run, List.foldlM_append]
  simp only [run] at moved ⊢
  rw [moved]
  rfl

/-- A run over two pieces that meets no fault meets none in the first. -/
theorem run_append_ok {q last : State} {xs ys : List Char}
    (moved : run separator q (xs ++ ys) = .ok last) :
    ∃ next, run separator q xs = .ok next ∧ run separator next ys = .ok last := by
  cases first : run separator q xs with
  | ok next => exact ⟨next, rfl, by rw [← moved, run_append first]⟩
  | error fault =>
    rw [run, List.foldlM_append] at moved
    simp only [run] at first
    rw [first] at moved
    cases moved

theorem run_cons_eq_ok {q last : State} {c : Char} {rest : List Char}
    (moved : run separator q (c :: rest) = .ok last) :
    ∃ next, step separator q c = .ok next ∧ run separator next rest = .ok last := by
  cases first : step separator q c with
  | ok next => exact ⟨next, rfl, by rw [← moved, run_cons_ok first]⟩
  | error fault =>
    simp only [run, List.foldlM_cons, first] at moved
    cases moved

theorem exists_of_run_concat {q last : State} {line : List Char} {c : Char}
    (moved : run separator q (line ++ [c]) = .ok last) :
    ∃ between, run separator q line = .ok between ∧ step separator between c = .ok last := by
  obtain ⟨between, first, later⟩ := run_append_ok moved
  obtain ⟨next, stepped, done⟩ := run_cons_eq_ok later
  cases done
  exact ⟨between, first, stepped⟩

theorem checkFrom_eq_ok_iff (text : List Char) (q : State) (line opened : Nat) :
    checkFrom separator q line opened text = .ok () ↔
      ∃ last, run separator q text = .ok last ∧ last ≠ .quoted := by
  -- The two lines only go into a fault, so the statement is over all of them.
  induction text generalizing q line opened with
  | nil =>
    by_cases inside : q = .quoted
    · simp [checkFrom, inside]
    · simp [checkFrom, inside]
  | cons c rest ih =>
    cases moved : step separator q c with
    | ok next => simp only [checkFrom, moved, ih, run_cons_ok moved]
    | error fault =>
      constructor
      · intro accepted
        simp only [checkFrom, moved] at accepted
        cases accepted
      · rintro ⟨last, ran, -⟩
        obtain ⟨next, stepped, -⟩ := run_cons_eq_ok ran
        rw [moved] at stepped
        cases stepped

/-- A text is accepted if no step meets a fault and it does not end between quotes. -/
theorem check_eq_ok_iff (text : List Char) :
    check separator text = .ok () ↔
      ∃ last, run separator .fieldStart text = .ok last ∧ last ≠ .quoted :=
  checkFrom_eq_ok_iff text .fieldStart 1 1

/-! ### One character -/

theorem step_separator (noQuote : separator ≠ '"') {q : State} (outside : q ≠ .quoted) :
    step separator q separator = .ok .fieldStart := by
  cases q with
  | quoted => exact absurd rfl outside
  | fieldStart | bare | quoteInQuoted => simp [step, noQuote]

theorem step_feed {q : State} (outside : q ≠ .quoted) :
    step separator q '\n' = .ok .fieldStart := by
  cases q with
  | quoted => exact absurd rfl outside
  | fieldStart | bare | quoteInQuoted => simp [step]

theorem step_return (noReturn : separator ≠ '\r') {q : State} (outside : q ≠ .quoted) :
    step separator q '\r' = .ok .bare := by
  cases q with
  | quoted => exact absurd rfl outside
  | fieldStart | bare | quoteInQuoted => simp [step, noReturn.symm]

theorem step_inside {c : Char} (other : c ≠ '"') : step separator .quoted c = .ok .quoted := by
  simp [step, other]

/-- A character without a meaning continues or begins a bare field. -/
theorem step_other {c : Char} (noSeparator : c ≠ separator) (noQuote : c ≠ '"') (noFeed : c ≠ '\n')
    {q : State} (outside : q = .fieldStart ∨ q = .bare) : step separator q c = .ok .bare := by
  rcases outside with rfl | rfl
  · simp [step, noSeparator, noQuote, noFeed]
  · simp [step, noSeparator, noQuote, noFeed]

end FormLetter.Csv.Quoting
