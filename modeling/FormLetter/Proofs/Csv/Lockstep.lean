import FormLetter.Proofs.Csv.Quoting
import FormLetter.Proofs.Csv.Rows

/-!
The quote check and the reader side by side. They do not share their states: the check takes a
carriage return outside quotes for a character of a field, where the reader ends the record. What
they agree on is whether they are between quotes, and that is enough for a text that the check
accepts to be read without leniency.
-/
namespace FormLetter.Csv

/-- The states and positions that are met together. -/
inductive InStep : Quoting.State → Reader.Position → Prop where
  | fieldStart : InStep .fieldStart .fieldStart
  | recordStart : InStep .fieldStart .recordStart
  | bare : InStep .bare .bare
  /-- Behind a carriage return that ended a record. -/
  | afterReturn : InStep .bare .afterReturn
  /-- Behind a mark, or a carriage return that ended no record. -/
  | skipped : InStep .bare .recordStart
  | quoted : InStep .quoted .quoted
  | quoteInQuoted : InStep .quoteInQuoted .quoteInQuoted

namespace InStep

variable {separator : Char} {q next : Quoting.State} {p : Reader.Position}

theorem quoted_iff (inStep : InStep q p) : p = .quoted ↔ q = .quoted := by
  cases inStep <;> simp

theorem quoteInQuoted_iff (inStep : InStep q p) : p = .quoteInQuoted ↔ q = .quoteInQuoted := by
  cases inStep <;> simp

theorem starts (inStep : InStep q p) (start : q = .fieldStart) :
    p = .fieldStart ∨ p = .recordStart := by
  cases inStep with
  | fieldStart => exact .inl rfl
  | recordStart => exact .inr rfl
  | bare | afterReturn | skipped | quoted | quoteInQuoted => cases start

/-- One character that the check lets pass. -/
theorem step (splits : Splits separator) {c : Char} (inStep : InStep q p)
    (moved : Quoting.step separator q c = .ok next) :
    InStep next (Reader.step (.ofChar separator) p c).1 := by
  have distinct := splits.distinct
  -- Each kind of character in each pair of states; the faults of the check drop out.
  rcases (Dialect.ofChar separator).kinds c with same | rfl | rfl | rfl | plain
  · rw [same, Reader.step_separator distinct]
    cases inStep <;> simp [Quoting.step, same, Dialect.ofChar, splits.ne_quote] at moved <;>
      subst moved <;> constructor
  · rw [Reader.step_quote distinct]
    cases inStep <;> simp [Quoting.step, Dialect.ofChar] at moved <;> subst moved <;> constructor
  · rw [Reader.step_return distinct]
    cases inStep <;> simp [Quoting.step, Dialect.ofChar, splits.ne_return.symm] at moved <;>
      subst moved <;> constructor
  · rw [Reader.step_feed distinct]
    cases inStep <;> simp [Quoting.step, Dialect.ofChar] at moved <;> subst moved <;> constructor
  · rw [Reader.step_plain plain]
    obtain ⟨isSeparator, isQuote, isReturn, isFeed⟩ := plain
    simp only [Dialect.ofChar] at isSeparator isQuote isReturn isFeed
    cases inStep <;> simp [Quoting.step, isQuote, isSeparator, isReturn, isFeed] at moved <;>
      subst moved <;> constructor

theorem run (splits : Splits separator) {text : List Char} (inStep : InStep q p)
    (moved : Quoting.run separator q text = .ok next) :
    InStep next (Reader.run (.ofChar separator) p text) := by
  induction text generalizing q p with
  | nil =>
    cases moved
    exact inStep
  | cons c rest ih =>
    obtain ⟨between, first, later⟩ := Quoting.run_cons_eq_ok moved
    exact ih (inStep.step splits first) later

/-- The check reads a mark as a character of a field and the reader does not read it at all. -/
theorem exists_start (separator : Char) (text : List Char) :
    ∃ q, InStep q .recordStart ∧
      Quoting.run separator q (body separator text) = Quoting.run separator .fieldStart text := by
  cases text with
  | nil => exact ⟨.fieldStart, .recordStart, rfl⟩
  | cons c rest =>
    rw [body]
    split
    next marked =>
      -- The check is past its first character while the reader has not begun.
      obtain ⟨rfl, other⟩ := marked
      have moved : Quoting.step separator .fieldStart mark = .ok .bare :=
        Quoting.step_other other.symm (by decide) (by decide) (.inl rfl)
      exact ⟨.bare, .skipped, (Quoting.run_cons_ok moved rest).symm⟩
    next => exact ⟨.fieldStart, .recordStart, rfl⟩

end InStep

/-- Where a reader of characters is behind a text. -/
def reached (separator : Char) (text : List Char) : Reader.Position :=
  Reader.run (.ofChar separator) .recordStart (body separator text)

/-- Behind a text that the check lets pass, the reader is in step with it. -/
theorem inStep_reached {separator : Char} {text : List Char} {q : Quoting.State}
    (splits : Splits separator) (moved : Quoting.run separator .fieldStart text = .ok q) :
    InStep q (reached separator text) := by
  obtain ⟨start, inStep, same⟩ := InStep.exists_start separator text
  exact inStep.run splits (same.trans moved)

/-! ### Strict reading -/

namespace Reader

variable {α : Type} [DecidableEq α] {d : Dialect α}

/-- The reader copies a quote only as the second one of a pair, and finds no text behind a closing
quote. -/
structure Strict (d : Dialect α) (p : Position) (a : α) : Prop where
  pair : .symbol d.quote ∈ (step d p a).2 → p = .quoteInQuoted ∧ a = d.quote
  closed : p = .quoteInQuoted → (step d p a).1 ≠ .bare

theorem strict_plain {a : α} (plain : d.Plain a) {p : Position} :
    Strict d p a ↔ p ≠ .quoteInQuoted := by
  constructor
  · rintro ⟨-, closed⟩ rfl
    exact closed rfl (by rw [step_plain plain]; rfl)
  · intro other
    constructor
    · intro copied
      exact absurd (mem_of_symbol_mem_step copied).symm plain.ne_quote
    · intro behind
      exact absurd behind other

theorem strict_quote (distinct : d.Distinct) {p : Position} : Strict d p d.quote ↔ p ≠ .bare := by
  constructor
  · rintro ⟨pair, -⟩ rfl
    have copied : Event.symbol d.quote ∈ (step d .bare d.quote).2 := by
      rw [step_quote distinct]
      exact List.mem_singleton_self _
    cases (pair copied).1
  · intro other
    constructor <;> rw [step_quote distinct]
    · cases p <;> simp at other ⊢
    · rintro rfl
      simp

/-- A separator or line end closes every field that is open, whatever was in front of it. -/
private theorem strict_of_closes {p : Position} {a : α} (other : a ≠ d.quote)
    (closes : (step d .quoteInQuoted a).1 ≠ .bare) : Strict d p a := by
  constructor
  · intro copied
    exact absurd (mem_of_symbol_mem_step copied).symm other
  · rintro rfl
    exact closes

theorem strict_separator (distinct : d.Distinct) (p : Position) : Strict d p d.separator :=
  strict_of_closes distinct.quote_ne_separator.symm (by simp [step_separator distinct])

theorem strict_return (distinct : d.Distinct) (p : Position) : Strict d p d.carriageReturn :=
  strict_of_closes distinct.return_ne_quote (by simp [step_return distinct])

theorem strict_feed (distinct : d.Distinct) (p : Position) : Strict d p d.lineFeed :=
  strict_of_closes distinct.feed_ne_quote (by simp [step_feed distinct])

/-- Behind a quote of a quoted field is behind a quote, and that quote was met between quotes. -/
theorem exists_of_step_eq_quoteInQuoted {p : Position} {a : α}
    (behind : (step d p a).1 = .quoteInQuoted) : a = d.quote ∧ p = .quoted := by
  cases p <;> grind [step, atRecordStart, atFieldStart, inField]

theorem exists_of_run_eq_quoteInQuoted {input : List α}
    (behind : run d .recordStart input = .quoteInQuoted) :
    ∃ inside, input = inside ++ [d.quote] ∧ run d .recordStart inside = .quoted := by
  rcases List.eq_nil_or_concat input with rfl | ⟨inside, a, rfl⟩
  · cases behind
  · rw [List.concat_eq_append, run_append] at behind
    obtain ⟨rfl, between⟩ := exists_of_step_eq_quoteInQuoted behind
    exact ⟨inside, List.concat_eq_append .., between⟩

/-- Reading a spelled symbol is strict at each of its parts where reading the symbol is. -/
theorem Strict.spelled {β : Type} [DecidableEq β] {d' : Dialect β} (distinct : d.Distinct)
    (distinct' : d'.Distinct) {f : α → List β} {a : α} {pre post : List β} {b : β} {p : Position}
    (spells : Spells d d' a (f a)) (parts : f a = pre ++ b :: post) (strict : Strict d p a) :
    Strict d' (run d' p pre) b := by
  -- What has a meaning is spelled by one symbol, so only the spelling of the others has an inside.
  have whole {c : β} (single : [c] = pre ++ b :: post) : pre = [] ∧ b = c := by
    cases pre with
    | nil => exact ⟨rfl, (List.cons.inj single).1.symm⟩
    | cons first pre => simp at single
  generalize spelled : f a = w at spells parts
  cases spells with
  | separator =>
    obtain ⟨rfl, rfl⟩ := whole parts
    exact strict_separator distinct' p
  | quote =>
    obtain ⟨rfl, rfl⟩ := whole parts
    exact (strict_quote distinct').mpr ((strict_quote distinct).mp strict)
  | carriageReturn =>
    obtain ⟨rfl, rfl⟩ := whole parts
    exact strict_return distinct' p
  | lineFeed =>
    obtain ⟨rfl, rfl⟩ := whole parts
    exact strict_feed distinct' p
  | plain plain plain' =>
    rw [parts] at plain'
    have member : b ∈ pre ++ b :: post := List.mem_append_right _ (List.mem_cons_self ..)
    apply (strict_plain (plain' b member)).mpr
    cases pre with
    | nil => exact (strict_plain plain).mp strict
    | cons first pre =>
      -- Inside the spelling the reader is in a value, and so not behind a quote.
      have inside := Reads.plain (fun c hc => plain' c (List.mem_append_left _ hc)) p
      rw [inside.leads]
      cases p <;> simp [Position.plain]

end Reader

/-- A character that the check lets pass is read strictly. -/
theorem InStep.strict {separator c : Char} {q next : Quoting.State} {p : Reader.Position}
    (splits : Splits separator) (inStep : InStep q p)
    (moved : Quoting.step separator q c = .ok next) :
    Reader.Strict (.ofChar separator) p c := by
  have distinct := splits.distinct
  rcases (Dialect.ofChar separator).kinds c with same | rfl | rfl | rfl | plain
  · rw [same]
    exact Reader.strict_separator distinct p
  · -- In a bare field the check faults the quote.
    rw [Reader.strict_quote distinct]
    rintro rfl
    cases inStep
    simp [Quoting.step, Dialect.ofChar] at moved
  · exact Reader.strict_return distinct p
  · exact Reader.strict_feed distinct p
  · -- Behind a closing quote the check faults the text.
    rw [Reader.strict_plain plain]
    rintro rfl
    cases inStep
    obtain ⟨isSeparator, isQuote, isReturn, isFeed⟩ := plain
    simp only [Dialect.ofChar] at isSeparator isQuote isReturn isFeed
    simp [Quoting.step, isSeparator, isQuote, isReturn, isFeed] at moved

/-! ### The bytes -/

namespace StandIn

theorem Fits.part {separator standIn : Char} {text before : List Char}
    (fits : Fits separator standIn text) (part : ∀ c ∈ before, c ∈ text) :
    Fits separator standIn before :=
  ⟨fits.splits, fits.ascii, fits.same, fun wide member => fits.free wide (part standIn member)⟩

/-- The bytes lead where the characters lead. -/
theorem run_readerInput {separator standIn : Char} {text : List Char} (splits : Splits separator)
    (fits : Fits separator standIn text) (p : Reader.Position) :
    Reader.run (Table.readerDialect standIn) p (Table.readerInput separator standIn text) =
      Reader.run (.ofChar separator) p (body separator text) := by
  have distinct := readerDialect_distinct fits.splits fits.ascii
  rw [readerInput_eq fits]
  exact Reader.run_spelled splits.distinct distinct
    (fun c member => spells fits (mem_of_mem_body member)) p

end StandIn

theorem body_append_prefix (separator : Char) (xs ys : List Char) :
    body separator xs <+: body separator (xs ++ ys) := by
  cases xs with
  | nil => exact List.nil_prefix
  | cons c xs =>
    simp only [List.cons_append, body]
    split
    · exact List.prefix_append ..
    · exact List.prefix_append (c :: xs) ys

/-- A position in a spelled text is a position in a character of the text. -/
theorem exists_of_flatMap_eq_append {α β : Type} {f : α → List β} {input : List α}
    {pre post : List β} {b : β} (parts : input.flatMap f = pre ++ b :: post) :
    ∃ before a after inner outer, input = before ++ a :: after ∧ f a = inner ++ b :: outer ∧
      pre = before.flatMap f ++ inner := by
  induction input generalizing pre with
  | nil => simp at parts
  | cons a input ih =>
    rw [List.flatMap_cons] at parts
    rcases List.append_eq_append_iff.mp parts with ⟨later, rfl, rest⟩ | ⟨outer, first, rest⟩
    · obtain ⟨before, a', after, inner, outer, rfl, same, rfl⟩ := ih rest
      exact ⟨a :: before, a', after, inner, outer, rfl, same, by simp⟩
    · cases outer with
      | nil =>
        -- The cut falls between two characters, and the position belongs to the next one.
        obtain ⟨before, a', after, inner, outer, rfl, same, empty⟩ := @ih [] rest.symm
        refine ⟨a :: before, a', after, inner, outer, rfl, same, ?_⟩
        rw [List.flatMap_cons, List.append_assoc, ← empty, first, List.append_nil, List.append_nil]
      | cons b' outer =>
        cases rest
        exact ⟨[], a, input, pre, outer, rfl, first, rfl⟩

end FormLetter.Csv

namespace FormLetter.Table

open Csv

variable {separator standIn : Char} {text : List Char}

/-- The reader is in step with the check after every accepted piece of a text. -/
theorem inStep_of_run (splits : Splits separator) (fits : StandIn.Fits separator standIn text)
    {q : Quoting.State} (moved : Quoting.run separator .fieldStart text = .ok q) :
    InStep q (Reader.run (readerDialect standIn) .recordStart
      (readerInput separator standIn text)) := by
  rw [StandIn.run_readerInput splits fits]
  exact inStep_reached splits moved

/-- An accepted text is read strictly, byte for byte. -/
theorem strict_of_run (splits : Splits separator) (fits : StandIn.Fits separator standIn text)
    {q : Quoting.State} (moved : Quoting.run separator .fieldStart text = .ok q) {pre post : Bytes}
    {b : UInt8} (parts : readerInput separator standIn text = pre ++ b :: post) :
    Reader.Strict (readerDialect standIn) (Reader.run (readerDialect standIn) .recordStart pre) b := by
  have distinct := StandIn.readerDialect_distinct fits.splits fits.ascii
  have spells (c : Char) (member : c ∈ body separator text) :=
    StandIn.spells fits (mem_of_mem_body member)
  rw [StandIn.readerInput_eq fits] at parts
  obtain ⟨before, c, after, inner, outer, same, bytes, rfl⟩ := exists_of_flatMap_eq_append parts
  -- The check passes the character that the byte is part of.
  obtain ⟨start, inStep, ran⟩ := InStep.exists_start separator text
  rw [moved, same] at ran
  obtain ⟨between, first, later⟩ := Quoting.run_append_ok ran
  obtain ⟨next, passed, -⟩ := Quoting.run_cons_eq_ok later
  have strict := (inStep.run splits first).strict splits passed
  have reached := Reader.run_spelled splits.distinct distinct
    (fun c member => spells c (same ▸ List.mem_append_left _ member)) .recordStart
  have whole := spells c (same ▸ List.mem_append_right _ (List.mem_cons_self ..))
  rw [Reader.run_append, reached]
  exact strict.spelled splits.distinct distinct whole bytes

/-- On a text that the check accepts the reader is between quotes, behind a quote and at the start
of a field when the check is. It copies a quote only as the second one of a pair, finds no text
behind a closing quote and does not end between quotes. -/
theorem reader_in_step_with_check (splits : Splits separator)
    (accepted : Quoting.check separator text = .ok ())
    (chosen : StandIn.choose? separator text = some standIn) :
    let dialect := readerDialect standIn
    let input := readerInput separator standIn
    let reached (bytes : Bytes) := Reader.run dialect .recordStart bytes
    (∀ before after, text = before ++ after →
      input before <+: input text ∧
      ∃ q, Quoting.run separator .fieldStart before = .ok q ∧
        (reached (input before) = .quoted ↔ q = .quoted) ∧
        (reached (input before) = .quoteInQuoted ↔ q = .quoteInQuoted) ∧
        (q = .fieldStart →
          reached (input before) = .fieldStart ∨ reached (input before) = .recordStart)) ∧
    (∀ pre b post, input text = pre ++ b :: post →
      (.symbol dialect.quote ∈ (Reader.step dialect (reached pre) b).2 →
        b = dialect.quote ∧ ∃ inside, pre = inside ++ [dialect.quote] ∧ reached inside = .quoted) ∧
      (reached pre = .quoteInQuoted → (Reader.step dialect (reached pre) b).1 ≠ .bare)) ∧
    reached (input text) ≠ .quoted := by
  intro dialect input reached
  have fits := StandIn.fits_of_choose? splits chosen
  obtain ⟨last, ran, outside⟩ := (Quoting.check_eq_ok_iff text).mp accepted
  refine ⟨?_, ?_, ?_⟩
  · rintro before after rfl
    -- The stand-in fits every piece of the text, so each piece is read as the text is.
    have fitsBefore := fits.part fun c member => List.mem_append_left after member
    obtain ⟨q, moved, -⟩ := Quoting.run_append_ok ran
    have inStep := inStep_of_run splits fitsBefore moved
    refine ⟨?_, q, moved, inStep.quoted_iff, inStep.quoteInQuoted_iff, inStep.starts⟩
    obtain ⟨rest, more⟩ := body_append_prefix separator before after
    simp only [input, StandIn.readerInput_eq fits, StandIn.readerInput_eq fitsBefore, ← more,
      List.flatMap_append]
    exact List.prefix_append ..
  · intro pre b post parts
    have strict := strict_of_run splits fits ran parts
    refine ⟨?_, strict.closed⟩
    intro copied
    obtain ⟨behind, isQuote⟩ := strict.pair copied
    exact ⟨isQuote, Reader.exists_of_run_eq_quoteInQuoted behind⟩
  · exact mt (inStep_of_run splits fits ran).quoted_iff.mp outside

/-- A marked text with a separator outside ASCII, cut between its quotes and read to its end. -/
theorem reader_in_step_with_check_section_sign :
    let reached (text : String) := Reader.run (readerDialect '\x01') .recordStart
      (readerInput '§' '\x01' text.toList)
    (∃ q, Quoting.run '§' .fieldStart "\uFEFFa§\"b".toList = .ok q ∧
      (reached "\uFEFFa§\"b" = .quoted ↔ q = .quoted)) ∧
    reached "\uFEFFa§\"b\"\"\"\r\n" ≠ .quoted := by
  obtain ⟨prefixes, -, closed⟩ :=
    @reader_in_step_with_check '§' '\x01' "\uFEFFa§\"b\"\"\"\r\n".toList
      ⟨by decide, by decide, by decide⟩ rfl (by decide)
  obtain ⟨-, q, moved, inside, -⟩ :=
    prefixes "\uFEFFa§\"b".toList "\"\"\"\r\n".toList (by decide)
  exact ⟨⟨q, moved, inside⟩, closed⟩

end FormLetter.Table
