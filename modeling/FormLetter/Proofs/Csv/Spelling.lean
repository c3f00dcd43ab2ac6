import FormLetter.Proofs.Csv.Runs

/-!
One text in two alphabets. Where every symbol with a meaning is spelled by its counterpart, and
every other one by symbols that have none, the reader takes the same way on both sides and finds
the same values, spelled.
-/
namespace FormLetter.Csv

variable {α β : Type}

/-- How a symbol of one dialect may be spelled in another. -/
inductive Spells (d : Dialect α) (d' : Dialect β) : α → List β → Prop where
  | separator : Spells d d' d.separator [d'.separator]
  | quote : Spells d d' d.quote [d'.quote]
  | carriageReturn : Spells d d' d.carriageReturn [d'.carriageReturn]
  | lineFeed : Spells d d' d.lineFeed [d'.lineFeed]
  | plain {a : α} {b : β} {bs : List β} :
      d.Plain a → (∀ c ∈ b :: bs, d'.Plain c) → Spells d d' a (b :: bs)

namespace Reader

/-- The events of a spelled symbol. -/
def Event.spell (f : α → List β) : Event α → List (Event β)
  | .symbol a => (f a).map .symbol
  | .endField => [.endField]
  | .endRecord => [.endRecord]

private theorem foldr_spell (f : α → List β) (e : Event α) (rows : List (List (List α))) :
    (e.spell f).foldr prepend (rows.map (·.map (·.flatMap f))) =
      (prepend e rows).map (·.map (·.flatMap f)) := by
  -- Symbols in front of no field get lost, spelled or not.
  have kept (bs : List β) (rest : List (List (List β))) (stuck : ∀ b, prepend (.symbol b) rest = rest) :
      (bs.map Event.symbol).foldr prepend rest = rest := by
    induction bs with
    | nil => rfl
    | cons b bs ih => rw [List.map_cons, List.foldr_cons, ih, stuck]
  cases e with
  | endRecord => rfl
  | endField => cases rows <;> rfl
  | symbol a =>
    match rows with
    | [] => exact kept _ _ fun _ => rfl
    | [] :: rs => exact kept _ _ fun _ => rfl
    | (v :: r) :: rs => exact foldr_symbols ..

theorem assemble_spell (f : α → List β) (es : List (Event α)) :
    assemble (es.flatMap (Event.spell f)) = (assemble es).map (·.map (·.flatMap f)) := by
  induction es with
  | nil => rfl
  | cons e es ih =>
    rw [List.flatMap_cons, assemble_append, ih, foldr_spell]
    rfl

variable [DecidableEq α] [DecidableEq β] {d : Dialect α} {d' : Dialect β}

/-- One symbol, spelled or not, leads to the same position. -/
theorem Reads.spelled (distinct : d.Distinct) (distinct' : d'.Distinct) {f : α → List β} {a : α}
    (spells : Spells d d' a (f a)) (p : Position) :
    Reads d' p (f a) ((step d p a).2.flatMap (Event.spell f)) (step d p a).1 := by
  generalize spelled : f a = w at spells
  -- A symbol with a meaning has the same table on both sides.
  cases spells with
  | separator =>
    apply Reads.single
    rw [step_separator distinct, step_separator distinct']
    cases p <;> simp [Event.spell, spelled]
  | quote =>
    apply Reads.single
    rw [step_quote distinct, step_quote distinct']
    cases p <;> simp [Event.spell, spelled]
  | carriageReturn =>
    apply Reads.single
    rw [step_return distinct, step_return distinct']
    cases p <;> simp [Event.spell, spelled]
  | lineFeed =>
    apply Reads.single
    rw [step_feed distinct, step_feed distinct']
    cases p <;> simp [Event.spell, spelled]
  | plain plain plain' =>
    rw [step_plain plain]
    simpa [Event.spell, spelled] using Reads.plain plain' p

theorem run_spelled (distinct : d.Distinct) (distinct' : d'.Distinct) {f : α → List β}
    {input : List α} (spells : ∀ a ∈ input, Spells d d' a (f a)) (p : Position) :
    run d' p (input.flatMap f) = run d p input := by
  induction input generalizing p with
  | nil => rfl
  | cons a input ih =>
    have first := Reads.spelled distinct distinct' (spells a (List.mem_cons_self ..)) p
    rw [List.flatMap_cons, run_append, first.leads, run_cons,
      ih fun b member => spells b (List.mem_cons_of_mem _ member)]

theorem events_spelled (distinct : d.Distinct) (distinct' : d'.Distinct) {f : α → List β}
    {input : List α} (spells : ∀ a ∈ input, Spells d d' a (f a)) (p : Position) :
    events d' p (input.flatMap f) = (events d p input).flatMap (Event.spell f) := by
  induction input generalizing p with
  | nil => cases p <;> rfl
  | cons a input ih =>
    have first := Reads.spelled distinct distinct' (spells a (List.mem_cons_self ..)) p
    rw [List.flatMap_cons, first.events_append,
      ih (fun b member => spells b (List.mem_cons_of_mem _ member)), events, List.flatMap_append]

/-- Spelling an input spells its records. -/
theorem records_spelled (distinct : d.Distinct) (distinct' : d'.Distinct) {f : α → List β}
    {input : List α} (spells : ∀ a ∈ input, Spells d d' a (f a)) :
    records d' (input.flatMap f) = (records d input).map (·.map (·.flatMap f)) := by
  rw [records, events_spelled distinct distinct' spells, assemble_spell, records]

end Reader

end FormLetter.Csv
