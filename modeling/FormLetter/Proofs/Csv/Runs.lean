import FormLetter.Csv.Reader

/-!
Runs of the record reader. A run over two pieces of input is a run over the first and then over the
second; what one symbol does is a small table for each kind of symbol. Values hold symbols of the
input only.
-/
namespace FormLetter.Csv

variable {α : Type}

/-- The symbols with a meaning are told apart. -/
structure Dialect.Distinct (d : Dialect α) : Prop where
  quote_ne_separator : d.quote ≠ d.separator
  return_ne_separator : d.carriageReturn ≠ d.separator
  feed_ne_separator : d.lineFeed ≠ d.separator
  return_ne_quote : d.carriageReturn ≠ d.quote
  feed_ne_quote : d.lineFeed ≠ d.quote
  feed_ne_return : d.lineFeed ≠ d.carriageReturn

/-- A symbol without a meaning. -/
structure Dialect.Plain (d : Dialect α) (a : α) : Prop where
  ne_separator : a ≠ d.separator
  ne_quote : a ≠ d.quote
  ne_return : a ≠ d.carriageReturn
  ne_feed : a ≠ d.lineFeed

instance [DecidableEq α] (d : Dialect α) (a : α) : Decidable (d.Plain a) :=
  decidable_of_iff (a ≠ d.separator ∧ a ≠ d.quote ∧ a ≠ d.carriageReturn ∧ a ≠ d.lineFeed)
    ⟨fun ⟨hs, hq, hr, hf⟩ => ⟨hs, hq, hr, hf⟩, fun ⟨hs, hq, hr, hf⟩ => ⟨hs, hq, hr, hf⟩⟩

theorem Dialect.kinds [DecidableEq α] (d : Dialect α) (a : α) :
    a = d.separator ∨ a = d.quote ∨ a = d.carriageReturn ∨ a = d.lineFeed ∨ d.Plain a := by
  by_cases hs : a = d.separator
  · exact .inl hs
  by_cases hq : a = d.quote
  · exact .inr (.inl hq)
  by_cases hr : a = d.carriageReturn
  · exact .inr (.inr (.inl hr))
  by_cases hf : a = d.lineFeed
  · exact .inr (.inr (.inr (.inl hf)))
  exact .inr (.inr (.inr (.inr ⟨hs, hq, hr, hf⟩)))

theorem Dialect.ofChar_distinct {separator : Char} (noQuote : separator ≠ '"')
    (noReturn : separator ≠ '\r') (noFeed : separator ≠ '\n') :
    (Dialect.ofChar separator).Distinct :=
  ⟨noQuote.symm, noReturn.symm, noFeed.symm, by simp [Dialect.ofChar], by simp [Dialect.ofChar],
    by simp [Dialect.ofChar]⟩

namespace Reader

/-! ### Records -/

theorem foldr_symbols (bs v : List α) (row : List (List α)) (rows : List (List (List α))) :
    (bs.map Event.symbol).foldr prepend ((v :: row) :: rows) = ((bs ++ v) :: row) :: rows := by
  induction bs with
  | nil => rfl
  | cons b bs ih => rw [List.map_cons, List.foldr_cons, ih, prepend, List.cons_append]

theorem assemble_append (es fs : List (Event α)) :
    assemble (es ++ fs) = es.foldr prepend (assemble fs) :=
  List.foldr_append

private theorem mem_prepend {e : Event α} {rows : List (List (List α))} {row : List (List α)}
    {v : List α} {a : α} (hrow : row ∈ prepend e rows) (hv : v ∈ row) (ha : a ∈ v) :
    e = .symbol a ∨ ∃ row ∈ rows, ∃ v ∈ row, a ∈ v := by
  cases e with
  | endRecord =>
    rcases List.mem_cons.mp hrow with rfl | old
    · cases hv
    · exact .inr ⟨row, old, v, hv, ha⟩
  | endField =>
    match rows with
    | [] => cases hrow
    | r :: rs =>
      rcases List.mem_cons.mp hrow with rfl | old
      · rcases List.mem_cons.mp hv with rfl | older
        · cases ha
        · exact .inr ⟨r, List.mem_cons_self .., v, older, ha⟩
      · exact .inr ⟨row, List.mem_cons_of_mem _ old, v, hv, ha⟩
  | symbol b =>
    match rows with
    | [] => cases hrow
    | [] :: rs => exact .inr ⟨row, hrow, v, hv, ha⟩
    | (g :: r) :: rs =>
      rcases List.mem_cons.mp hrow with rfl | old
      · rcases List.mem_cons.mp hv with rfl | older
        · rcases List.mem_cons.mp ha with rfl | oldest
          · exact .inl rfl
          · exact .inr ⟨g :: r, List.mem_cons_self .., g, List.mem_cons_self .., oldest⟩
        · exact .inr ⟨g :: r, List.mem_cons_self .., v, List.mem_cons_of_mem _ older, ha⟩
      · exact .inr ⟨row, List.mem_cons_of_mem _ old, v, hv, ha⟩

/-- Every symbol of a value comes from an event. -/
theorem symbol_mem_of_mem_assemble {es : List (Event α)} {row : List (List α)} {v : List α} {a : α}
    (hrow : row ∈ assemble es) (hv : v ∈ row) (ha : a ∈ v) : Event.symbol a ∈ es := by
  -- The records grow from the last event to the first.
  induction es generalizing row v with
  | nil => cases hrow
  | cons e es ih =>
    rcases mem_prepend hrow hv ha with rfl | ⟨row, old, v, hv, ha⟩
    · exact List.mem_cons_self ..
    · exact List.mem_cons_of_mem _ (ih old hv ha)

/-! ### Pieces of input -/

variable [DecidableEq α] (d : Dialect α)

/-- The events that the symbols cause, the end of the input aside. -/
def emitted (p : Position) : List α → List (Event α)
  | [] => []
  | a :: rest => (step d p a).2 ++ emitted (step d p a).1 rest

@[simp] theorem run_nil (p : Position) : run d p [] = p := rfl

@[simp] theorem run_cons (p : Position) (a : α) (rest : List α) :
    run d p (a :: rest) = run d (step d p a).1 rest := rfl

theorem run_append (p : Position) (xs ys : List α) :
    run d p (xs ++ ys) = run d (run d p xs) ys :=
  List.foldl_append

theorem events_append (p : Position) (xs ys : List α) :
    events d p (xs ++ ys) = emitted d p xs ++ events d (run d p xs) ys := by
  induction xs generalizing p with
  | nil => rfl
  | cons a xs ih =>
    simp only [List.cons_append, events, emitted, run_cons, ih, List.append_assoc]

theorem events_eq (p : Position) (input : List α) :
    events d p input = emitted d p input ++ finish (run d p input) := by
  have whole := events_append d p input []
  rwa [List.append_nil] at whole

/-- Reading a piece of input causes these events and leads from one position to the other. -/
structure Reads (p : Position) (input : List α) (es : List (Event α)) (next : Position) : Prop where
  emits : emitted d p input = es
  leads : run d p input = next

/-! ### One symbol -/

/-- Where a symbol without a meaning leads. -/
def Position.plain : Position → Position
  | .quoted => .quoted
  | _ => .bare

theorem Position.plain_plain (p : Position) : p.plain.plain = p.plain := by
  cases p <;> rfl

variable {d}

theorem Reads.nil (p : Position) : Reads d p [] [] p :=
  ⟨rfl, rfl⟩

theorem Reads.cons {p q r : Position} {a : α} {rest : List α} {es fs : List (Event α)}
    (first : step d p a = (q, es)) (later : Reads d q rest fs r) :
    Reads d p (a :: rest) (es ++ fs) r := by
  constructor
  · rw [emitted, first, later.emits]
  · rw [run_cons, first, later.leads]

theorem Reads.single {p q : Position} {a : α} {es : List (Event α)} (moved : step d p a = (q, es)) :
    Reads d p [a] es q := by
  have read := Reads.cons moved (.nil q)
  rwa [List.append_nil] at read

theorem Reads.append {p q r : Position} {xs ys : List α} {es fs : List (Event α)}
    (first : Reads d p xs es q) (later : Reads d q ys fs r) : Reads d p (xs ++ ys) (es ++ fs) r := by
  induction xs generalizing p es with
  | nil =>
    obtain ⟨rfl, rfl⟩ := first
    exact later
  | cons a xs ih =>
    obtain ⟨rfl, leads⟩ := first
    rw [emitted, List.append_assoc]
    exact Reads.cons rfl (ih ⟨rfl, leads⟩)

theorem Reads.events_append {p q : Position} {xs : List α} {es : List (Event α)}
    (first : Reads d p xs es q) (ys : List α) : events d p (xs ++ ys) = es ++ events d q ys := by
  rw [Reader.events_append, first.emits, first.leads]

theorem Reads.events_eq {p q : Position} {xs : List α} {es : List (Event α)}
    (first : Reads d p xs es q) : events d p xs = es ++ finish q := by
  rw [Reader.events_eq, first.emits, first.leads]

theorem step_plain {a : α} (plain : d.Plain a) (p : Position) :
    step d p a = (p.plain, [.symbol a]) := by
  obtain ⟨hs, hq, hr, hf⟩ := plain
  cases p <;>
    simp [step, atRecordStart, atFieldStart, inField, Position.plain, hs, hq, hr, hf]

theorem step_separator (distinct : d.Distinct) (p : Position) :
    step d p d.separator = match p with
      | .quoted => (.quoted, [.symbol d.separator])
      | _ => (.fieldStart, [.endField]) := by
  obtain ⟨hq, hr, hf, -, -, -⟩ := distinct
  cases p <;>
    simp [step, atRecordStart, atFieldStart, inField, hq.symm, hr.symm, hf.symm]

theorem step_quote (distinct : d.Distinct) (p : Position) :
    step d p d.quote = match p with
      | .recordStart | .afterReturn | .fieldStart => (.quoted, [])
      | .bare => (.bare, [.symbol d.quote])
      | .quoted => (.quoteInQuoted, [])
      | .quoteInQuoted => (.quoted, [.symbol d.quote]) := by
  obtain ⟨hs, -, -, hr, hf, -⟩ := distinct
  cases p <;>
    simp [step, atRecordStart, atFieldStart, inField, hs, hr.symm, hf.symm]

theorem step_return (distinct : d.Distinct) (p : Position) :
    step d p d.carriageReturn = match p with
      | .recordStart | .afterReturn => (.recordStart, [])
      | .quoted => (.quoted, [.symbol d.carriageReturn])
      | _ => (.afterReturn, [.endField, .endRecord]) := by
  obtain ⟨-, hs, -, hq, -, hf⟩ := distinct
  cases p <;>
    simp [step, atRecordStart, atFieldStart, inField, hs, hq]

theorem step_feed (distinct : d.Distinct) (p : Position) :
    step d p d.lineFeed = match p with
      | .recordStart | .afterReturn => (.recordStart, [])
      | .quoted => (.quoted, [.symbol d.lineFeed])
      | _ => (.recordStart, [.endField, .endRecord]) := by
  obtain ⟨-, -, hs, -, hq, hr⟩ := distinct
  cases p <;>
    simp [step, atRecordStart, atFieldStart, inField, hs, hq, hr]

theorem mem_of_symbol_mem_step {p : Position} {a b : α} (found : .symbol b ∈ (step d p a).2) :
    b = a := by
  cases p <;> grind [step, atRecordStart, atFieldStart, inField]

/-- The values hold symbols of the input. -/
theorem mem_of_mem_records {input : List α} {row : List (List α)} {v : List α} {a : α}
    (hrow : row ∈ records d input) (hv : v ∈ row) (ha : a ∈ v) : a ∈ input := by
  have found := symbol_mem_of_mem_assemble hrow hv ha
  clear hrow
  -- Over the rest of the input, which may be read from any position.
  generalize Position.recordStart = p at found
  induction input generalizing p with
  | nil => cases p <;> simp [events, finish] at found
  | cons b input ih =>
    rcases List.mem_append.mp found with now | later
    · exact mem_of_symbol_mem_step now ▸ List.mem_cons_self ..
    · exact List.mem_cons_of_mem _ (ih _ later)

/-- A stretch of symbols without a meaning goes into one value. -/
theorem Reads.plain {b : α} {bs : List α} (plain : ∀ c ∈ b :: bs, d.Plain c) (p : Position) :
    Reads d p (b :: bs) ((b :: bs).map .symbol) p.plain := by
  induction bs generalizing b p with
  | nil => exact .cons (step_plain (plain b (List.mem_cons_self ..)) p) (.nil _)
  | cons c bs ih =>
    -- The first symbol leads to a position where further ones change nothing.
    have later := ih (fun a member => plain a (List.mem_cons_of_mem _ member)) p.plain
    rw [Position.plain_plain] at later
    exact .cons (step_plain (plain b (List.mem_cons_self ..)) p) later

end Reader

end FormLetter.Csv
