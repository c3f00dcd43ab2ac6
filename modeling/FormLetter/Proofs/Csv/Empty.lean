import FormLetter.Proofs.Csv.Kept

/-!
Texts without records, and records without fields. Only line breaks leave no trace between two
records, so a text has no record exactly if it is made of line breaks; and a record is ended behind
a field only, so none is without a field.
-/
namespace FormLetter.Csv.Reader

variable {α : Type}

theorem prepend_ne_nil (e : Event α) {rows : List (List (List α))} (nonempty : rows ≠ []) :
    prepend e rows ≠ [] := by
  cases e with
  | endRecord => exact List.cons_ne_nil _ _
  | endField =>
    obtain ⟨r, rs, rfl⟩ := List.exists_cons_of_ne_nil nonempty
    exact List.cons_ne_nil _ _
  | symbol a => match rows with
    | [] => exact absurd rfl nonempty
    | [] :: rs => exact nonempty
    | (v :: r) :: rs => exact List.cons_ne_nil _ _

theorem assemble_append_ne_nil (es : List (Event α)) {fs : List (Event α)}
    (nonempty : assemble fs ≠ []) : assemble (es ++ fs) ≠ [] := by
  rw [assemble_append]
  induction es with
  | nil => exact nonempty
  | cons e es ih => exact prepend_ne_nil e ih

/-! ### Records have fields -/

theorem ne_nil_of_mem_prepend {e : Event α} {rows : List (List (List α))} (other : e ≠ .endRecord)
    (filled : ∀ row ∈ rows, row ≠ []) : ∀ row ∈ prepend e rows, row ≠ [] := by
  cases e with
  | endRecord => exact absurd rfl other
  | endField => match rows with
    | [] => exact filled
    | r :: rs =>
      have later := List.forall_mem_cons.mp filled
      exact List.forall_mem_cons.mpr ⟨List.cons_ne_nil _ _, later.2⟩
  | symbol a => match rows with
    | [] => exact filled
    | [] :: rs => exact filled
    | (v :: r) :: rs =>
      have later := List.forall_mem_cons.mp filled
      exact List.forall_mem_cons.mpr ⟨List.cons_ne_nil _ _, later.2⟩

/-- The end of a record comes with the end of a field in front of it. -/
theorem ne_nil_of_mem_ended {es : List (Event α)} (filled : ∀ row ∈ assemble es, row ≠ []) :
    ∀ row ∈ assemble (.endField :: .endRecord :: es), row ≠ [] := by
  have ended : assemble (.endField :: .endRecord :: es) = [[]] :: assemble es := rfl
  rw [ended]
  exact List.forall_mem_cons.mpr ⟨List.cons_ne_nil _ _, filled⟩

variable [DecidableEq α] (d : Dialect α)

theorem cases_of_step_events (p : Position) (a : α) :
    (step d p a).2 = [.endField, .endRecord] ∨
      ∀ e ∈ (step d p a).2, e ≠ .endRecord := by
  cases p <;> grind [step, atRecordStart, atFieldStart, inField]

theorem ne_nil_of_mem_events (p : Position) (input : List α) :
    ∀ row ∈ assemble (events d p input), row ≠ [] := by
  induction input generalizing p with
  | nil => cases p <;> simp [events, finish, assemble, prepend]
  | cons a input ih =>
    have later := ih (step d p a).1
    rw [events]
    obtain ended | inside := cases_of_step_events d p a
    · simp only [ended]
      exact ne_nil_of_mem_ended later
    · -- Each of the other events leaves the fields that are there.
      rw [assemble_append]
      generalize (step d p a).2 = es at inside
      induction es with
      | nil => exact later
      | cons e es kept =>
        obtain ⟨other, rest⟩ := List.forall_mem_cons.mp inside
        exact ne_nil_of_mem_prepend other (kept rest)

/-- Every record has a field. -/
theorem ne_nil_of_mem_records {input : List α} {row : List (List α)}
    (found : row ∈ records d input) : row ≠ [] :=
  ne_nil_of_mem_events d .recordStart input row found

/-! ### Texts without records -/

variable {d}

theorem inRecord_of_step {a : α} (other : ¬ (a = d.carriageReturn ∨ a = d.lineFeed)) :
    (step d .recordStart a).1.InRecord := by
  rw [step, atRecordStart, if_neg other]
  constructor <;> grind [atFieldStart, inField]

/-- A text has no records exactly if nothing but line breaks is in it. -/
theorem records_eq_nil_iff (distinct : d.Distinct) (input : List α) :
    records d input = [] ↔ ∀ a ∈ input, a = d.carriageReturn ∨ a = d.lineFeed := by
  induction input with
  | nil => simp [records, events, finish, assemble]
  | cons a input ih =>
    by_cases lineBreak : a = d.carriageReturn ∨ a = d.lineFeed
    · have skipped : records d (a :: input) = records d input := by
        rw [records, events, step, atRecordStart, if_pos lineBreak]
        rfl
      rw [skipped, ih, List.forall_mem_cons]
      exact (and_iff_right lineBreak).symm
    · -- A record is open behind any other symbol, and it is there at the end.
      constructor
      · intro none
        have opened := (gathers_events distinct (step d .recordStart a).1 input).opened
          (inRecord_of_step lineBreak)
        obtain ⟨v, r, rows, same⟩ := opened
        have nonempty : assemble (events d (step d .recordStart a).1 input) ≠ [] := by
          rw [same]
          exact List.cons_ne_nil _ _
        exact absurd none (assemble_append_ne_nil (step d .recordStart a).2 nonempty)
      · intro all
        exact absurd (List.forall_mem_cons.mp all).1 lineBreak

end FormLetter.Csv.Reader
