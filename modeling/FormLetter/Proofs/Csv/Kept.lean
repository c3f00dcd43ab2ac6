import FormLetter.Proofs.Csv.Runs

/-!
What the reader keeps. A symbol goes into a value at most once and in its place; only symbols with a
meaning may be left out, where they end a field or a record or stand around a value.
-/
namespace FormLetter.Csv.Reader

variable {α : Type}

def Event.symbol? : Event α → Option α
  | .symbol a => some a
  | _ => none

/-- The symbols that events put into values, in order. -/
def symbolsOf (es : List (Event α)) : List α :=
  es.filterMap Event.symbol?

@[simp] theorem symbolsOf_symbol (a : α) (es : List (Event α)) :
    symbolsOf (.symbol a :: es) = a :: symbolsOf es := rfl

@[simp] theorem symbolsOf_endField (es : List (Event α)) :
    symbolsOf (.endField :: es) = symbolsOf es := rfl

@[simp] theorem symbolsOf_endRecord (es : List (Event α)) :
    symbolsOf (.endRecord :: es) = symbolsOf es := rfl

/-- A field is open, or would be opened by whatever comes next. -/
def Position.InRecord (p : Position) : Prop :=
  p ≠ .recordStart ∧ p ≠ .afterReturn

/-- The rows hold all symbols that events put into values, and start with a record of at least one
field if there was one open. -/
structure Gathers (p : Position) (es : List (Event α)) : Prop where
  whole : (assemble es).flatten.flatten = symbolsOf es
  opened : p.InRecord → ∃ v r rows, assemble es = (v :: r) :: rows

theorem gathers_finish (p : Position) : Gathers p (finish (α := α) p) := by
  cases p with
  | recordStart => exact ⟨rfl, fun inside => absurd rfl inside.1⟩
  | afterReturn => exact ⟨rfl, fun inside => absurd rfl inside.2⟩
  | fieldStart => exact ⟨rfl, fun _ => ⟨[], [], [], rfl⟩⟩
  | bare => exact ⟨rfl, fun _ => ⟨[], [], [], rfl⟩⟩
  | quoted => exact ⟨rfl, fun _ => ⟨[], [], [], rfl⟩⟩
  | quoteInQuoted => exact ⟨rfl, fun _ => ⟨[], [], [], rfl⟩⟩

/-- A symbol behind which a field is open goes into that field. -/
theorem Gathers.symbol {p q : Position} {es : List (Event α)} (later : Gathers q es)
    (inside : q.InRecord) (a : α) : Gathers p (.symbol a :: es) := by
  obtain ⟨v, r, rows, same⟩ := later.opened inside
  have grown : assemble (.symbol a :: es) = ((a :: v) :: r) :: rows := by
    rw [assemble, List.foldr_cons, ← assemble, same, prepend]
  refine ⟨?_, fun _ => ⟨a :: v, r, rows, grown⟩⟩
  rw [grown, symbolsOf_symbol, ← later.whole, same]
  rfl

theorem Gathers.endField {p q : Position} {es : List (Event α)} (later : Gathers q es)
    (inside : q.InRecord) : Gathers p (.endField :: es) := by
  obtain ⟨v, r, rows, same⟩ := later.opened inside
  have grown : assemble (.endField :: es) = ([] :: v :: r) :: rows := by
    rw [assemble, List.foldr_cons, ← assemble, same, prepend]
  refine ⟨?_, fun _ => ⟨[], v :: r, rows, grown⟩⟩
  rw [grown, symbolsOf_endField, ← later.whole, same]
  rfl

theorem Gathers.endRecord {p q : Position} {es : List (Event α)} (later : Gathers q es) :
    Gathers p (.endField :: .endRecord :: es) := by
  have grown : assemble (.endField :: .endRecord :: es) = [[]] :: assemble es := rfl
  refine ⟨?_, fun _ => ⟨[], [], assemble es, grown⟩⟩
  rw [grown, symbolsOf_endField, symbolsOf_endRecord, ← later.whole]
  rfl

theorem Gathers.nothing {p q : Position} {es : List (Event α)} (later : Gathers q es)
    (inside : p.InRecord → q.InRecord) : Gathers p es :=
  ⟨later.whole, fun opened => later.opened (inside opened)⟩

variable [DecidableEq α] {d : Dialect α}

/-- What one symbol does: it goes into the open field, or it has a meaning and ends a field, ends a
record, or does nothing. -/
inductive Moves (d : Dialect α) (p : Position) (a : α) : Position × List (Event α) → Prop
  | symbol (next : Position) (inside : next.InRecord) : Moves d p a (next, [.symbol a])
  | endField (next : Position) (inside : next.InRecord) (meant : ¬ d.Plain a) :
      Moves d p a (next, [.endField])
  | endRecord (next : Position) (meant : ¬ d.Plain a) : Moves d p a (next, [.endField, .endRecord])
  | nothing (next : Position) (inside : p.InRecord → next.InRecord) (meant : ¬ d.Plain a) :
      Moves d p a (next, [])

theorem moves_step (distinct : d.Distinct) (p : Position) (a : α) : Moves d p a (step d p a) := by
  obtain rfl | rfl | rfl | rfl | plain := d.kinds a
  · rw [step_separator distinct p]
    have meant : ¬ d.Plain d.separator := fun plain => plain.ne_separator rfl
    cases p with
    | quoted => exact .symbol _ ⟨nofun, nofun⟩
    | recordStart | afterReturn | fieldStart | bare | quoteInQuoted =>
      exact .endField _ ⟨nofun, nofun⟩ meant
  · rw [step_quote distinct p]
    have meant : ¬ d.Plain d.quote := fun plain => plain.ne_quote rfl
    cases p with
    | bare | quoteInQuoted => exact .symbol _ ⟨nofun, nofun⟩
    | recordStart | afterReturn | fieldStart | quoted =>
      exact .nothing _ (fun _ => ⟨nofun, nofun⟩) meant
  · rw [step_return distinct p]
    have meant : ¬ d.Plain d.carriageReturn := fun plain => plain.ne_return rfl
    cases p with
    | recordStart => exact .nothing _ id meant
    | afterReturn => exact .nothing _ (fun inside => absurd rfl inside.2) meant
    | quoted => exact .symbol _ ⟨nofun, nofun⟩
    | fieldStart | bare | quoteInQuoted => exact .endRecord _ meant
  · rw [step_feed distinct p]
    have meant : ¬ d.Plain d.lineFeed := fun plain => plain.ne_feed rfl
    cases p with
    | recordStart => exact .nothing _ id meant
    | afterReturn => exact .nothing _ (fun inside => absurd rfl inside.2) meant
    | quoted => exact .symbol _ ⟨nofun, nofun⟩
    | fieldStart | bare | quoteInQuoted => exact .endRecord _ meant
  · rw [step_plain plain p]
    refine .symbol _ ?_
    cases p with
    | quoted => exact ⟨nofun, nofun⟩
    | recordStart | afterReturn | fieldStart | bare | quoteInQuoted => exact ⟨nofun, nofun⟩

/-- From any position the rows hold all symbols put into values. -/
theorem gathers_events (distinct : d.Distinct) (p : Position) (input : List α) :
    Gathers p (events d p input) := by
  induction input generalizing p with
  | nil => exact gathers_finish p
  | cons a input ih =>
    have moves := moves_step distinct p a
    have later := ih (step d p a).1
    -- The records grow from the last symbol to the first, so the later ones are there already.
    rw [events]
    generalize step d p a = moved at *
    cases moves with
    | symbol next inside => exact later.symbol inside a
    | endField next inside => exact later.endField inside
    | endRecord next => exact later.endRecord
    | nothing next inside => exact later.nothing inside

/-- Symbols of an input: none that it does not have, none moved, and all that have no meaning. -/
structure Keeps (d : Dialect α) (input kept : List α) : Prop where
  inOrder : kept.Sublist input
  complete : kept.filter (d.Plain ·) = input.filter (d.Plain ·)

theorem Keeps.cons {input kept : List α} (later : Keeps d input kept) (a : α) :
    Keeps d (a :: input) (a :: kept) := by
  refine ⟨later.inOrder.cons_cons a, ?_⟩
  rw [List.filter_cons, List.filter_cons, later.complete]

theorem Keeps.drop {input kept : List α} (later : Keeps d input kept) {a : α}
    (meant : ¬ d.Plain a) : Keeps d (a :: input) kept := by
  refine ⟨later.inOrder.cons a, ?_⟩
  rw [List.filter_cons_of_neg (by simpa using meant), later.complete]

theorem keeps_events (distinct : d.Distinct) (p : Position) (input : List α) :
    Keeps d input (symbolsOf (events d p input)) := by
  induction input generalizing p with
  | nil => cases p <;> exact ⟨List.Sublist.slnil, rfl⟩
  | cons a input ih =>
    have moves := moves_step distinct p a
    have later := ih (step d p a).1
    rw [events]
    generalize step d p a = moved at *
    cases moves with
    | symbol next => exact later.cons a
    | endField next inside meant => exact later.drop meant
    | endRecord next meant => exact later.drop meant
    | nothing next inside meant => exact later.drop meant

/-- The values of all records in a row are the input, but for symbols with a meaning. -/
theorem keeps_records (distinct : d.Distinct) (input : List α) :
    Keeps d input (records d input).flatten.flatten := by
  rw [records, (gathers_events distinct .recordStart input).whole]
  exact keeps_events distinct .recordStart input

end FormLetter.Csv.Reader
