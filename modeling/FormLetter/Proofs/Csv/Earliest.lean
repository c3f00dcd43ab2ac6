import FormLetter.Proofs.Csv.Written
import Mathlib.Data.List.Infix

/-!
Where broken quoting is reported. Nothing that could follow a fault would mend it, and whatever is
read up to the fault could still become an accepted text; so the check stops at the first character
that it can. A text that ends between quotes has no fault in it: a closing quote makes it accepted,
and what is reported is the line on which its last field was opened.
-/
namespace FormLetter.Csv.Quoting

variable {separator : Char} {text before after : List Char}

/-- A text with this start may be accepted. -/
def Viable (separator : Char) (start : List Char) : Prop :=
  ∃ rest, check separator (start ++ rest) = .ok ()

/-- The shortest start of a text that no accepted text has ends in `c`, behind `before`. -/
structure StopsAt (separator : Char) (text before : List Char) (c : Char) : Prop where
  start : before ++ [c] <+: text
  stuck : ¬ Viable separator (before ++ [c])
  shortest : ∀ part, part <+: text → ¬ Viable separator part → before ++ [c] <+: part

/-- The last field of a text was opened by a quote on this line and holds the rest of the text. -/
def OpenSince (separator : Char) (text : List Char) (line : Nat) : Prop :=
  ∃ before value, text = before ++ '"' :: doubled value ∧
    run separator .fieldStart before = .ok .fieldStart ∧ line = 1 + before.count '\n'

/-! ### Starts of accepted texts -/

theorem check_closed (moved : run separator .fieldStart text = .ok .quoted) :
    check separator (text ++ ['"']) = .ok () := by
  refine (check_eq_ok_iff _).mpr ⟨.quoteInQuoted, ?_, by decide⟩
  rw [run_append moved]
  rfl

theorem viable_iff_run (start : List Char) :
    Viable separator start ↔ ∃ q, run separator .fieldStart start = .ok q := by
  constructor
  · rintro ⟨rest, accepted⟩
    obtain ⟨last, moved, -⟩ := (check_eq_ok_iff _).mp accepted
    obtain ⟨q, first, -⟩ := run_append_ok moved
    exact ⟨q, first⟩
  · rintro ⟨q, moved⟩
    by_cases inside : q = .quoted
    · -- A quote closes the open field.
      exact ⟨['"'], check_closed (inside ▸ moved)⟩
    · refine ⟨[], (check_eq_ok_iff _).mpr ⟨q, ?_, inside⟩⟩
      rwa [List.append_nil]

theorem Viable.of_start {start part : List Char} (viable : Viable separator start)
    (shorter : part <+: start) : Viable separator part := by
  obtain ⟨rest, accepted⟩ := viable
  obtain ⟨between, rfl⟩ := shorter
  refine ⟨between ++ rest, ?_⟩
  rwa [← List.append_assoc]

/-! ### Lines -/

theorem lineAfter_eq (line : Nat) (c : Char) : lineAfter line c = line + [c].count '\n' := by
  unfold lineAfter
  split
  next same => simp [same]
  next other => simp [other]

/-- A check that meets no fault in the first piece goes on behind it, as many lines further as the
piece has line feeds. -/
theorem exists_checkFrom_append {q next : State} (moved : run separator q before = .ok next)
    (line opened : Nat) (after : List Char) :
    ∃ opened', checkFrom separator q line opened (before ++ after) =
      checkFrom separator next (line + before.count '\n') opened' after := by
  induction before generalizing q line opened with
  | nil =>
    cases moved
    exact ⟨opened, rfl⟩
  | cons c rest ih =>
    obtain ⟨between, first, later⟩ := run_cons_eq_ok moved
    obtain ⟨opened', same⟩ :=
      ih later (lineAfter line c) (if q = .fieldStart ∧ c = '"' then line else opened)
    have lines : line + (c :: rest).count '\n' = lineAfter line c + rest.count '\n' := by
      rw [lineAfter_eq, ← List.singleton_append, List.count_append, Nat.add_assoc]
    refine ⟨opened', ?_⟩
    rw [lines, ← same, List.cons_append, checkFrom]
    simp only [first]

theorem check_of_step_error {q : State} {c : Char} {fault : Fault}
    (moved : run separator .fieldStart before = .ok q)
    (failed : step separator q c = .error fault) (after : List Char) :
    check separator (before ++ c :: after) = .error ⟨1 + before.count '\n', fault⟩ := by
  obtain ⟨opened, same⟩ := exists_checkFrom_append moved 1 1 (c :: after)
  rw [check, same, checkFrom]
  simp only [failed]

private theorem checkFrom_doubled (line opened : Nat) (value : List Char) :
    checkFrom separator .quoted line opened (doubled value) =
      .error ⟨opened, .unterminated⟩ := by
  -- The line goes on with the value, and that of the opening quote stays.
  induction value generalizing line with
  | nil => rfl
  | cons c value ih =>
    rw [doubled, List.flatMap_cons, ← doubled]
    split
    next => exact ih line
    next other =>
      rw [List.singleton_append, checkFrom]
      simp only [step_inside other]
      exact ih _

theorem OpenSince.check_eq {line : Nat} (opened : OpenSince separator text line) :
    check separator text = .error ⟨line, .unterminated⟩ := by
  obtain ⟨before, value, rfl, moved, rfl⟩ := opened
  obtain ⟨earlier, same⟩ := exists_checkFrom_append moved 1 1 ('"' :: doubled value)
  rw [check, same]
  exact checkFrom_doubled ..

/-! ### How a text ends -/

theorem doubled_concat (value : List Char) (c : Char) :
    doubled (value ++ [c]) = doubled value ++ if c = '"' then ['"', '"'] else [c] := by
  simp [doubled, List.flatMap_append]

theorem cases_of_step_inside {q next : State} {c : Char} (moved : step separator q c = .ok next) :
    (next = .quoted → q = .fieldStart ∧ c = '"' ∨ q = .quoted ∧ c ≠ '"' ∨
      q = .quoteInQuoted ∧ c = '"') ∧
    (next = .quoteInQuoted → q = .quoted ∧ c = '"') := by
  cases q <;> grind [step]

/-- Between quotes a field is open, and behind a quote met there one was open in front of it. -/
theorem exists_openSince_of_run {q : State} (moved : run separator .fieldStart text = .ok q) :
    (q = .quoted → ∃ line, OpenSince separator text line) ∧
    (q = .quoteInQuoted →
      ∃ inside line, text = inside ++ ['"'] ∧ OpenSince separator inside line) := by
  -- Along the text from its start: the field that is open was opened the longest ago.
  induction text using List.reverseRecOn generalizing q with
  | nil =>
    cases moved
    exact ⟨nofun, nofun⟩
  | append_singleton line c ih =>
    obtain ⟨before, first, stepped⟩ := exists_of_run_concat moved
    obtain ⟨quoted, behind⟩ := cases_of_step_inside stepped
    constructor
    · intro inside
      obtain ⟨rfl, rfl⟩ | ⟨rfl, other⟩ | ⟨rfl, rfl⟩ := quoted inside
      · exact ⟨_, line, [], rfl, first, rfl⟩
      · obtain ⟨_, before, value, rfl, start, -⟩ := (ih first).1 rfl
        refine ⟨_, before, value ++ [c], ?_, start, rfl⟩
        rw [doubled_concat, if_neg other, List.append_assoc, List.cons_append]
      · -- The second quote of a pair.
        obtain ⟨_, _, rfl, before, value, rfl, start, -⟩ := (ih first).2 rfl
        refine ⟨_, before, value ++ ['"'], ?_, start, rfl⟩
        rw [doubled_concat, if_pos rfl]
        simp
    · intro closed
      obtain ⟨rfl, rfl⟩ := behind closed
      obtain ⟨since, opened⟩ := (ih first).1 rfl
      exact ⟨line, since, rfl, opened⟩

theorem step_ne_unterminated {q : State} {c : Char} {fault : Fault}
    (failed : step separator q c = .error fault) : fault ≠ .unterminated := by
  cases q <;> grind [step]

/-- Every text is read to its end, or up to a fault. -/
theorem exists_run_or_fault (separator : Char) (text : List Char) :
    (∃ q, run separator .fieldStart text = .ok q) ∨
    ∃ before c after q fault, text = before ++ c :: after ∧
      run separator .fieldStart before = .ok q ∧ step separator q c = .error fault := by
  -- The first fault stays the first one when the text goes on.
  induction text using List.reverseRecOn with
  | nil => exact .inl ⟨.fieldStart, rfl⟩
  | append_singleton line c ih =>
    obtain ⟨q, moved⟩ | ⟨before, c', after, q, fault, rfl, moved, failed⟩ := ih
    · cases stepped : step separator q c with
      | ok next => exact .inl ⟨next, by rw [run_append moved, run_cons_ok stepped, run_nil]⟩
      | error fault => exact .inr ⟨line, c, [], q, fault, rfl, moved, stepped⟩
    · exact .inr ⟨before, c', after ++ [c], q, fault, by simp, moved, failed⟩

theorem stopsAt_of_step_error {q : State} {c : Char} {fault : Fault}
    (moved : run separator .fieldStart before = .ok q)
    (failed : step separator q c = .error fault) (after : List Char) :
    StopsAt separator (before ++ c :: after) before c := by
  have start : before ++ [c] <+: before ++ c :: after := ⟨after, by simp⟩
  constructor
  · exact start
  · intro viable
    obtain ⟨last, ran⟩ := (viable_iff_run _).mp viable
    obtain ⟨q', first, stepped⟩ := exists_of_run_concat ran
    rw [moved] at first
    cases first
    rw [failed] at stepped
    cases stepped
  · intro part shorter stuck
    obtain longer | within := List.prefix_or_prefix_of_prefix start shorter
    · exact longer
    obtain same | inside := List.prefix_concat_iff.mp within
    · exact same ▸ List.prefix_rfl
    · -- Any shorter start is one of what was read without a fault.
      have viable := (viable_iff_run before).mpr ⟨q, moved⟩
      exact absurd (viable.of_start inside) stuck

/-- What the check can answer, and what the text is like then. -/
inductive Verdict (separator : Char) (text : List Char) : Except Malformed Unit → Prop where
  | accepted : Viable separator text → Verdict separator text (.ok ())
  | stopped {before : List Char} {c : Char} {fault : Fault} : fault ≠ .unterminated →
      StopsAt separator text before c →
      Verdict separator text (.error ⟨1 + before.count '\n', fault⟩)
  | unclosed {line : Nat} : Viable separator text → OpenSince separator text line →
      check separator (text ++ ['"']) = .ok () →
      Verdict separator text (.error ⟨line, .unterminated⟩)

theorem verdict_check (separator : Char) (text : List Char) :
    Verdict separator text (check separator text) := by
  obtain ⟨q, moved⟩ | ⟨before, c, after, q, fault, rfl, moved, failed⟩ :=
    exists_run_or_fault separator text
  · have viable := (viable_iff_run text).mpr ⟨q, moved⟩
    by_cases inside : q = .quoted
    · obtain ⟨line, opened⟩ := (exists_openSince_of_run moved).1 inside
      rw [opened.check_eq]
      exact .unclosed viable opened (check_closed (inside ▸ moved))
    · rw [(check_eq_ok_iff text).mpr ⟨q, moved, inside⟩]
      exact .accepted viable
  · rw [check_of_step_error moved failed]
    exact .stopped (step_ne_unterminated failed) (stopsAt_of_step_error moved failed after)

/-! ### What a report says of a text -/

theorem exists_stopsAt_of_check {line : Nat} {fault : Fault} (other : fault ≠ .unterminated)
    (failed : check separator text = .error ⟨line, fault⟩) :
    ∃ before c, StopsAt separator text before c ∧ line = 1 + before.count '\n' := by
  have verdict := verdict_check separator text
  rw [failed] at verdict
  cases verdict with
  | stopped _ stops => exact ⟨_, _, stops, rfl⟩
  | unclosed => exact absurd rfl other

theorem exists_fault_iff :
    (∃ line fault, fault ≠ .unterminated ∧ check separator text = .error ⟨line, fault⟩) ↔
      ¬ Viable separator text := by
  constructor
  · rintro ⟨line, fault, other, failed⟩ viable
    obtain ⟨before, c, stops, -⟩ := exists_stopsAt_of_check other failed
    exact stops.stuck (viable.of_start stops.start)
  · intro stuck
    have verdict := verdict_check separator text
    generalize check separator text = answer at *
    cases verdict with
    | accepted viable | unclosed viable => exact absurd viable stuck
    | stopped other => exact ⟨_, _, other, rfl⟩

theorem check_eq_unterminated_iff {line : Nat} :
    check separator text = .error ⟨line, .unterminated⟩ ↔ OpenSince separator text line := by
  constructor
  · intro failed
    have verdict := verdict_check separator text
    rw [failed] at verdict
    cases verdict with
    | stopped other => exact absurd rfl other
    | unclosed _ opened => exact opened
  · exact OpenSince.check_eq

theorem viable_of_unterminated {line : Nat}
    (failed : check separator text = .error ⟨line, .unterminated⟩) :
    Viable separator text ∧ check separator (text ++ ['"']) = .ok () := by
  have verdict := verdict_check separator text
  rw [failed] at verdict
  cases verdict with
  | stopped other => exact absurd rfl other
  | unclosed viable _ closes => exact ⟨viable, closes⟩

theorem exists_unterminated_iff :
    (∃ line, check separator text = .error ⟨line, .unterminated⟩) ↔
      Viable separator text ∧ check separator text ≠ .ok () := by
  constructor
  · rintro ⟨line, failed⟩
    refine ⟨(viable_of_unterminated failed).1, ?_⟩
    rw [failed]
    nofun
  · rintro ⟨viable, refused⟩
    have verdict := verdict_check separator text
    generalize check separator text = answer at *
    cases verdict with
    | accepted => exact absurd rfl refused
    | stopped _ stops => exact absurd (viable.of_start stops.start) stops.stuck
    | unclosed => exact ⟨_, rfl⟩

theorem viable_iff_forall_start :
    Viable separator text ↔ ∀ part, part <+: text → Viable separator part := by
  constructor
  · intro viable part shorter
    exact viable.of_start shorter
  · intro all
    exact all text List.prefix_rfl

/-- A bare or extraneous quote is reported exactly for a text with a start that no accepted text has,
on the line of the character that ends the shortest such start. An unterminated field is reported
exactly for a text that is not accepted though all its starts are starts of accepted texts; one
quote more makes it accepted, and the line is that of the quote that opened the field. -/
theorem check_reports_earliest (separator : Char) (text : List Char) :
    ((∃ line fault, fault ≠ .unterminated ∧ check separator text = .error ⟨line, fault⟩) ↔
      ∃ part, part <+: text ∧ ¬ Viable separator part) ∧
    (∀ line fault, fault ≠ .unterminated → check separator text = .error ⟨line, fault⟩ →
      ∃ before c, StopsAt separator text before c ∧ line = 1 + before.count '\n') ∧
    ((∃ line, check separator text = .error ⟨line, .unterminated⟩) ↔
      (∀ part, part <+: text → Viable separator part) ∧ check separator text ≠ .ok ()) ∧
    ∀ line, (check separator text = .error ⟨line, .unterminated⟩ ↔
        OpenSince separator text line) ∧
      (check separator text = .error ⟨line, .unterminated⟩ →
        check separator (text ++ ['"']) = .ok ()) := by
  refine ⟨?_, ?_, ?_, ?_⟩
  · rw [exists_fault_iff, viable_iff_forall_start]
    push Not
    rfl
  · intro line fault other failed
    exact exists_stopsAt_of_check other failed
  · rw [exists_unterminated_iff, ← viable_iff_forall_start]
  · intro line
    exact ⟨check_eq_unterminated_iff, fun failed => (viable_of_unterminated failed).2⟩

/-- Text behind a closing quote on the second line. -/
theorem check_reports_earliest_second_line :
    let text := "a\n\"b\"c,\"d\n".toList
    check ',' text = .error ⟨2, .extraneousQuote⟩ ∧
      ∃ before c, StopsAt ',' text before c ∧ 2 = 1 + before.count '\n' := by
  intro text
  have failed : check ',' text = .error ⟨2, .extraneousQuote⟩ := by decide
  obtain ⟨-, stops, -⟩ := check_reports_earliest ',' text
  exact ⟨failed, stops 2 .extraneousQuote (by decide) failed⟩

end FormLetter.Csv.Quoting
