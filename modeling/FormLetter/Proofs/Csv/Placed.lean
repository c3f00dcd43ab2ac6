import FormLetter.Proofs.Csv.Lockstep
import Mathlib.Data.List.Infix

/-!
Quotes in their places. What the reader makes of a quote depends on where it stands: it opens a
field, closes one, is one of a pair, or is taken for a symbol of a value. The check accepts exactly
the texts without quotes of the last kind, but for quotes that open a field behind a carriage return
or a mark: there the reader begins a record, and the check is inside a field.
-/
namespace FormLetter.Csv

namespace Reader

variable {α : Type} [DecidableEq α]

/-- A field that is closed in front of this input ends there. -/
def EndsField (d : Dialect α) : List α → Prop
  | [] => True
  | a :: _ => a = d.separator ∨ a = d.carriageReturn ∨ a = d.lineFeed

instance (d : Dialect α) (after : List α) : Decidable (EndsField d after) := by
  cases after <;> unfold EndsField <;> infer_instance

/-- A quote that is met in a position, in front of some input, has a meaning. -/
def Placed (d : Dialect α) (after : List α) : Position → Prop
  -- It opens a field.
  | .recordStart | .afterReturn | .fieldStart => True
  -- It is a symbol of a value.
  | .bare => False
  -- It closes the field, or is the first one of a pair.
  | .quoted => EndsField d after ∨ after.head? = some d.quote
  -- It is the second one of a pair.
  | .quoteInQuoted => True

instance (d : Dialect α) (after : List α) (p : Position) : Decidable (Placed d after p) := by
  cases p <;> unfold Placed <;> infer_instance

/-- A record begins behind a line break only. -/
theorem lineBreak_of_step {d : Dialect α} {p : Position} {a : α}
    (start : (step d p a).1 = .recordStart ∨ (step d p a).1 = .afterReturn) :
    a = d.carriageReturn ∨ a = d.lineFeed := by
  cases p <;> grind [step, atRecordStart, atFieldStart, inField]

end Reader

/-- Every quote has a meaning to the reader, and no quoted field stays open. -/
structure WellQuoted (separator : Char) (text : List Char) : Prop where
  placed : ∀ before after, text = before ++ '"' :: after →
    Reader.Placed (.ofChar separator) after (reached separator before)
  closed : reached separator text ≠ .quoted

instance (separator : Char) (text : List Char) : Decidable (WellQuoted separator text) :=
  decidable_of_iff
    ((∀ before ∈ text.inits, ∀ after ∈ text.tails, text = before ++ '"' :: after →
        Reader.Placed (.ofChar separator) after (reached separator before)) ∧
      reached separator text ≠ .quoted) <| by
    constructor
    · rintro ⟨placed, closed⟩
      refine ⟨fun before after parts => ?_, closed⟩
      have first : before ∈ text.inits := (List.mem_inits ..).mpr ⟨_, parts.symm⟩
      have last : after ∈ text.tails :=
        (List.mem_tails ..).mpr ⟨before ++ ['"'], by simp [parts]⟩
      exact placed before first after last parts
    · rintro ⟨placed, closed⟩
      exact ⟨fun before _ after _ parts => placed before after parts, closed⟩

/-- A quote opens the first field of a record right behind a carriage return or a mark. -/
def Obscured (separator : Char) (text : List Char) : Prop :=
  ∃ before after, text = before ++ '"' :: after ∧
    (reached separator before = .recordStart ∨ reached separator before = .afterReturn) ∧
    (before = [mark] ∨ ∃ line, before = line ++ ['\r'])

variable {separator : Char} {text before after : List Char}

/-! ### The last character of a text -/

/-- Only a mark at the start is not read. -/
theorem reached_concat {line : List Char} {c : Char}
    (read : ¬ (line = [] ∧ c = mark ∧ separator ≠ mark)) :
    reached separator (line ++ [c]) =
      (Reader.step (.ofChar separator) (reached separator line) c).1 := by
  have whole : body separator (line ++ [c]) = body separator line ++ [c] := by
    cases line with
    | nil =>
      have kept : ¬ (c = mark ∧ separator ≠ mark) := fun marked => read ⟨rfl, marked⟩
      simp only [List.nil_append, body, if_neg kept]
    | cons first rest =>
      simp only [List.cons_append, body]
      split <;> rfl
  rw [reached, whole, Reader.run_append]
  rfl

/-- Where the reader begins a record and the check is inside a field, there is a mark or a carriage
return in front. -/
theorem mark_or_return_of_bare
    (moved : Quoting.run separator .fieldStart before = .ok .bare)
    (start : reached separator before = .recordStart ∨ reached separator before = .afterReturn) :
    before = [mark] ∨ ∃ line, before = line ++ ['\r'] := by
  rcases List.eq_nil_or_concat before with rfl | ⟨line, c, rfl⟩
  · cases moved
  rw [List.concat_eq_append] at moved start ⊢
  obtain ⟨q, -, stepped⟩ := Quoting.exists_of_run_concat moved
  by_cases unread : line = [] ∧ c = mark ∧ separator ≠ mark
  · obtain ⟨rfl, rfl, -⟩ := unread
    exact .inl rfl
  rw [reached_concat unread] at start
  rcases Reader.lineBreak_of_step start with rfl | rfl
  · exact .inr ⟨line, rfl⟩
  · -- Behind a line feed the check is at the start of a field, or still between quotes.
    cases q <;> simp [Quoting.step, Dialect.ofChar] at stepped

/-- Right behind a quote of a quoted field, the reader met that quote between quotes. -/
theorem exists_of_run_quoteInQuoted (splits : Splits separator)
    (moved : Quoting.run separator .fieldStart before = .ok .quoteInQuoted) :
    ∃ inside, before = inside ++ ['"'] ∧ reached separator inside = .quoted := by
  rcases List.eq_nil_or_concat before with rfl | ⟨inside, c, rfl⟩
  · cases moved
  rw [List.concat_eq_append] at moved ⊢
  obtain ⟨q, first, stepped⟩ := Quoting.exists_of_run_concat moved
  have quote : q = .quoted ∧ c = '"' := by
    cases q <;> grind [Quoting.step]
  obtain ⟨rfl, rfl⟩ := quote
  exact ⟨inside, rfl, (inStep_reached splits first).quoted_iff.mpr rfl⟩

/-! ### One more character -/

/-- The check faults a quote in a bare field, and what has no place behind a closing quote. -/
theorem cases_of_step_error {q : Quoting.State} {c : Char} {fault : Quoting.Fault}
    (failed : Quoting.step separator q c = .error fault) :
    (q = .bare ∧ c = '"') ∨
      (q = .quoteInQuoted ∧ c ≠ '"' ∧ c ≠ separator ∧ c ≠ '\n' ∧ c ≠ '\r') := by
  cases q <;> grind [Quoting.step]

/-- In a well-quoted text the check goes on to the next character, unless a quote is obscured. -/
theorem exists_step_of_wellQuoted (splits : Splits separator) {c : Char} {q : Quoting.State}
    (quoted : WellQuoted separator text) (seen : ¬ Obscured separator text)
    (parts : text = before ++ c :: after)
    (moved : Quoting.run separator .fieldStart before = .ok q) :
    ∃ next, Quoting.step separator q c = .ok next := by
  cases stepped : Quoting.step separator q c with
  | ok next => exact ⟨next, rfl⟩
  | error fault =>
    rcases cases_of_step_error stepped with
      ⟨rfl, rfl⟩ | ⟨rfl, noQuote, noSeparator, noFeed, noReturn⟩
    · have inStep := inStep_reached splits moved
      have placed := quoted.placed before after parts
      have start : reached separator before = .recordStart ∨
          reached separator before = .afterReturn := by
        generalize reached separator before = p at inStep placed
        cases inStep with
        | bare => exact placed.elim
        | afterReturn => exact .inr rfl
        | skipped => exact .inl rfl
      exact absurd ⟨before, after, parts, start, mark_or_return_of_bare moved start⟩ seen
    · obtain ⟨inside, rfl, between⟩ := exists_of_run_quoteInQuoted splits moved
      have placed := quoted.placed inside (c :: after) (by simp [parts])
      rw [between] at placed
      simp [Reader.Placed, Reader.EndsField, Dialect.ofChar, noQuote, noSeparator, noFeed,
        noReturn] at placed

theorem exists_run_of_wellQuoted (splits : Splits separator) (quoted : WellQuoted separator text)
    (seen : ¬ Obscured separator text) (parts : text = before ++ after) :
    ∃ q, Quoting.run separator .fieldStart before = .ok q := by
  -- Along the text from its start, as the places of its quotes depend on what is in front of them.
  induction before using List.reverseRecOn generalizing after with
  | nil => exact ⟨.fieldStart, rfl⟩
  | append_singleton before c ih =>
    rw [List.append_assoc, List.singleton_append] at parts
    obtain ⟨q, moved⟩ := ih parts
    obtain ⟨next, stepped⟩ := exists_step_of_wellQuoted splits quoted seen parts moved
    exact ⟨next, by rw [Quoting.run_append moved, Quoting.run_cons_ok stepped, Quoting.run_nil]⟩

/-! ### What the check lets pass -/

theorem placed_of_run (splits : Splits separator) {last : Quoting.State}
    (moved : Quoting.run separator .fieldStart (before ++ '"' :: after) = .ok last) :
    Reader.Placed (.ofChar separator) after (reached separator before) := by
  obtain ⟨q, first, later⟩ := Quoting.run_append_ok moved
  obtain ⟨next, stepped, rest⟩ := Quoting.run_cons_eq_ok later
  have inStep := inStep_reached splits first
  generalize reached separator before = p at inStep
  cases inStep with
  | fieldStart | recordStart | afterReturn | skipped | quoteInQuoted => trivial
  | bare => simp [Quoting.step] at stepped
  | quoted =>
    -- The check is behind the quote now, and minds the next character.
    simp only [Quoting.step, if_pos, Except.ok.injEq] at stepped
    subst stepped
    cases after with
    | nil => exact .inl trivial
    | cons c after =>
      obtain ⟨beyond, passed, -⟩ := Quoting.run_cons_eq_ok rest
      have kinds : c = '"' ∨ c = separator ∨ c = '\n' ∨ c = '\r' := by
        grind [Quoting.step]
      simp only [Reader.Placed, Reader.EndsField, Dialect.ofChar, List.head?_cons,
        Option.some.injEq]
      grind

theorem not_obscured_of_run (splits : Splits separator) {last : Quoting.State}
    (moved : Quoting.run separator .fieldStart text = .ok last) : ¬ Obscured separator text := by
  rintro ⟨before, after, rfl, start, ends⟩
  obtain ⟨q, first, later⟩ := Quoting.run_append_ok moved
  obtain ⟨next, stepped, -⟩ := Quoting.run_cons_eq_ok later
  have inside : q = .bare := by
    rcases ends with rfl | ⟨line, rfl⟩
    · obtain ⟨between, passed, done⟩ := Quoting.run_cons_eq_ok first
      cases done
      by_cases wide : separator = mark
      · -- A mark that separates is behind no record.
        subst wide
        exact absurd start (by decide)
      · rw [Quoting.step_other (Ne.symm wide) (by decide) (by decide) (.inl rfl)] at passed
        cases passed
        rfl
    · obtain ⟨between, same, passed⟩ := Quoting.exists_of_run_concat first
      have outside : between ≠ .quoted := by
        rintro rfl
        simp only [Quoting.step] at passed
        cases passed
        have quoted := (inStep_reached splits first).quoted_iff.mpr rfl
        rw [quoted] at start
        simp at start
      rw [Quoting.step_return splits.ne_return outside] at passed
      cases passed
      rfl
  subst inside
  simp [Quoting.step] at stepped

/-- The check accepts exactly the texts in which every quote has a meaning to the reader, none stays
open, and none opens a field right behind a carriage return or a mark. Where the reader is in a text
is where it is in the bytes that it is given. -/
theorem check_eq_ok_iff_wellQuoted (splits : Splits separator) (text : List Char) :
    (Quoting.check separator text = .ok () ↔
      WellQuoted separator text ∧ ¬ Obscured separator text) ∧
    ∀ standIn, StandIn.choose? separator text = some standIn →
      ∀ before after, text = before ++ after →
        Reader.run (Table.readerDialect standIn) .recordStart
          (Table.readerInput separator standIn before) = reached separator before := by
  refine ⟨⟨fun accepted => ?_, fun ⟨quoted, seen⟩ => ?_⟩, ?_⟩
  · obtain ⟨last, moved, outside⟩ := (Quoting.check_eq_ok_iff text).mp accepted
    refine ⟨⟨?_, mt (inStep_reached splits moved).quoted_iff.mp outside⟩,
      not_obscured_of_run splits moved⟩
    rintro before after rfl
    exact placed_of_run splits moved
  · obtain ⟨last, moved⟩ := exists_run_of_wellQuoted splits quoted seen (List.append_nil text).symm
    exact (Quoting.check_eq_ok_iff text).mpr
      ⟨last, moved, mt (inStep_reached splits moved).quoted_iff.mpr quoted.closed⟩
  · rintro standIn chosen before after rfl
    have fits := (StandIn.fits_of_choose? splits chosen).part
      fun c member => List.mem_append_left after member
    exact StandIn.run_readerInput splits fits .recordStart

/-- A doubled quote and a separator outside ASCII, read to the end and into the quoted field. -/
theorem check_eq_ok_iff_wellQuoted_section_sign :
    (WellQuoted '§' "a§\"b\"\"\"\r\n".toList ∧ ¬ Obscured '§' "a§\"b\"\"\"\r\n".toList) ∧
      Reader.run (Table.readerDialect '\x01') .recordStart
        (Table.readerInput '§' '\x01' "a§\"b".toList) = reached '§' "a§\"b".toList := by
  obtain ⟨accepted, same⟩ := @check_eq_ok_iff_wellQuoted '§' ⟨by decide, by decide, by decide⟩
    "a§\"b\"\"\"\r\n".toList
  exact ⟨accepted.mp (by decide),
    same '\x01' (by decide) "a§\"b".toList "\"\"\"\r\n".toList (by decide)⟩

/-- Behind a lone carriage return a quoted field is read as one, and yet it is refused. -/
theorem check_ne_ok_of_return :
    ¬ ∀ (separator : Char) (text : List Char), Splits separator → WellQuoted separator text →
      Quoting.check separator text = .ok () := by
  intro always
  have refused : Quoting.check ',' "a\r\"b\"\r".toList ≠ .ok () := by decide
  exact refused (always ',' _ ⟨by decide, by decide, by decide⟩ (by decide))

end FormLetter.Csv
