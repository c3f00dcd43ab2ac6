import FormLetter.Proofs.Csv.Quoting
import FormLetter.Proofs.Csv.Records
import FormLetter.Proofs.Csv.Rows

/-!
Written tables. A table may be written in many ways: every value bare or between quotes, every row
ended in one way or the other, blank lines wherever a line can stand. Loading takes each of them
back to the table.
-/
namespace FormLetter.Csv

/-- A value between quotes, every quote in it twice. -/
def doubled (value : List Char) : List Char :=
  value.flatMap fun c => if c = '"' then ['"', '"'] else [c]

/-- A value and how it may be written. -/
inductive WritesValue (separator : Char) : List Char → List Char → Prop where
  | bare {value : List Char} :
      (∀ c ∈ value, (Dialect.ofChar separator).Plain c) → WritesValue separator value value
  | quoted (value : List Char) : WritesValue separator value ('"' :: (doubled value ++ ['"']))

/-- Values joined by the separator. -/
inductive WritesValues (separator : Char) : List (List Char) → List Char → Prop where
  | last {value text : List Char} :
      WritesValue separator value text → WritesValues separator [value] text
  | more {value text rest : List Char} {row : List (List Char)} :
      WritesValue separator value text → WritesValues separator row rest →
      WritesValues separator (value :: row) (text ++ separator :: rest)

/-- A row leaves something on its line: a single empty value is written between quotes. -/
def WritesRow (separator : Char) (row : List (List Char)) (text : List Char) : Prop :=
  WritesValues separator row text ∧ text ≠ []

inductive LineBreak : List Char → Prop where
  | feed : LineBreak ['\n']
  | returnFeed : LineBreak ['\r', '\n']

inductive BlankLines : List Char → Prop where
  | none : BlankLines []
  | more {line rest : List Char} : LineBreak line → BlankLines rest → BlankLines (line ++ rest)

/-- Rows, each on a line of its own with blank lines in between; the last line may be left open. -/
inductive WritesRows (separator : Char) : List (List (List Char)) → List Char → Prop where
  | blank {text : List Char} : BlankLines text → WritesRows separator [] text
  | row {row : List (List Char)} {rows : List (List (List Char))} {blank text line rest : List Char} :
      BlankLines blank → WritesRow separator row text → LineBreak line →
      WritesRows separator rows rest →
      WritesRows separator (row :: rows) (blank ++ (text ++ (line ++ rest)))
  | unended {row : List (List Char)} {blank text : List Char} :
      BlankLines blank → WritesRow separator row text →
      WritesRows separator [row] (blank ++ text)

variable {separator : Char}

theorem WritesValues.ne_nil {row : List (List Char)} {text : List Char}
    (writes : WritesValues separator row text) : row ≠ [] := by
  cases writes <;> exact List.cons_ne_nil _ _

/-- A row has a value, if only an empty one. -/
theorem WritesRows.filled {rows : List (List (List Char))} {text : List Char}
    (writes : WritesRows separator rows text) : ∀ row ∈ rows, row ≠ [] := by
  induction writes with
  | blank _ => exact nofun
  | row _ row _ _ ih => exact List.forall_mem_cons.mpr ⟨row.1.ne_nil, ih⟩
  | unended _ row => exact List.forall_mem_singleton.mpr row.1.ne_nil

/-! ### The quotes of a written table are in order -/

namespace Quoting

private theorem run_doubled (value : List Char) :
    run separator .quoted (doubled value) = .ok .quoted := by
  induction value with
  | nil => rfl
  | cons c value ih =>
    rw [doubled, List.flatMap_cons]
    split
    next =>
      have pair : run separator .quoted ['"', '"'] = .ok .quoted := rfl
      rw [run_append pair]
      exact ih
    next other =>
      rw [List.singleton_append, run_cons_ok (step_inside other)]
      exact ih

private theorem run_bare {value : List Char}
    (plain : ∀ c ∈ value, (Dialect.ofChar separator).Plain c) {q : State}
    (start : q = .fieldStart ∨ q = .bare) :
    ∃ last, run separator q value = .ok last ∧ last ≠ .quoted := by
  induction value generalizing q with
  | nil => exact ⟨q, rfl, by rcases start with rfl | rfl <;> decide⟩
  | cons c value ih =>
    obtain ⟨noSeparator, noQuote, -, noFeed⟩ := plain c (List.mem_cons_self ..)
    have moved : step separator q c = .ok .bare := step_other noSeparator noQuote noFeed start
    rw [run_cons_ok moved]
    exact ih (fun c member => plain c (List.mem_cons_of_mem _ member)) (.inr rfl)

private theorem run_value {value text : List Char} (writes : WritesValue separator value text) :
    ∃ last, run separator .fieldStart text = .ok last ∧ last ≠ .quoted := by
  cases writes with
  | bare plain => exact run_bare plain (.inl rfl)
  | quoted =>
    have opened : step separator .fieldStart '"' = .ok .quoted := rfl
    rw [run_cons_ok opened, run_append (run_doubled value)]
    exact ⟨.quoteInQuoted, rfl, by decide⟩

private theorem run_values (noQuote : separator ≠ '"') {row : List (List Char)} {text : List Char}
    (writes : WritesValues separator row text) :
    ∃ last, run separator .fieldStart text = .ok last ∧ last ≠ .quoted := by
  induction writes with
  | last value => exact run_value value
  | more value _ ih =>
    obtain ⟨q, ran, outside⟩ := run_value value
    rw [run_append ran, run_cons_ok (step_separator noQuote outside)]
    exact ih

private theorem run_lineBreak (noReturn : separator ≠ '\r') {line : List Char}
    (ends : LineBreak line) {q : State} (outside : q ≠ .quoted) :
    run separator q line = .ok .fieldStart := by
  cases ends with
  | feed => rw [run_cons_ok (step_feed outside), run_nil]
  | returnFeed =>
    rw [run_cons_ok (step_return noReturn outside), run_cons_ok (step_feed (by decide)), run_nil]

private theorem run_blankLines (noReturn : separator ≠ '\r') {text : List Char}
    (blank : BlankLines text) : run separator .fieldStart text = .ok .fieldStart := by
  induction blank with
  | none => rfl
  | more line _ ih => rw [run_append (run_lineBreak noReturn line (by decide)), ih]

theorem check_written (splits : Splits separator) {rows : List (List (List Char))}
    {text : List Char} (writes : WritesRows separator rows text) :
    check separator text = .ok () := by
  rw [check_eq_ok_iff]
  -- Every row starts where the last line break has led: in front of a field.
  induction writes with
  | blank blank => exact ⟨.fieldStart, run_blankLines splits.ne_return blank, by decide⟩
  | row blank row line _ ih =>
    obtain ⟨q, ran, outside⟩ := run_values splits.ne_quote row.1
    rw [run_append (run_blankLines splits.ne_return blank), run_append ran,
      run_append (run_lineBreak splits.ne_return line outside)]
    exact ih
  | unended blank row =>
    rw [run_append (run_blankLines splits.ne_return blank)]
    exact run_values splits.ne_quote row.1

end Quoting

/-! ### A written table is read as its rows -/

namespace Reader

/-- What the values of a row cause, up to the end of the last one. -/
def rowEvents : List (List Char) → List (Event Char)
  | [] => []
  | [value] => value.map .symbol
  | value :: row => value.map .symbol ++ .endField :: rowEvents row

private theorem assemble_row {row : List (List Char)} (nonempty : row ≠ []) (es : List (Event Char)) :
    assemble (rowEvents row ++ .endField :: .endRecord :: es) = row :: assemble es := by
  induction row with
  | nil => exact absurd rfl nonempty
  | cons value row ih =>
    cases row with
    | nil =>
      have ended : assemble (.endField :: .endRecord :: es) = [[]] :: assemble es := rfl
      rw [rowEvents, assemble_append, ended, foldr_symbols, List.append_nil]
    | cons next row =>
      have ended : assemble (.endField :: (rowEvents (next :: row) ++ .endField :: .endRecord :: es)) =
          ([] :: next :: row) :: assemble es := by
        rw [assemble, List.foldr_cons, ← assemble, ih (by simp)]
        rfl
      rw [rowEvents, List.append_assoc, List.cons_append, assemble_append, ended, foldr_symbols,
        List.append_nil]
      exact List.cons_ne_nil _ _

/-- The reader is inside a row and not between quotes. -/
def InRow (p : Position) : Prop :=
  p = .fieldStart ∨ p = .bare ∨ p = .quoteInQuoted

private theorem reads_doubled (splits : Splits separator) (value : List Char) :
    Reads (Dialect.ofChar separator) .quoted (doubled value) (value.map .symbol) .quoted := by
  induction value with
  | nil => exact .nil _
  | cons c value ih =>
    rw [doubled, List.flatMap_cons]
    split
    next same =>
      subst same
      have pair : Reads (Dialect.ofChar separator) .quoted ['"', '"'] [.symbol '"'] .quoted :=
        .cons (step_quote splits.distinct .quoted)
          (.single (step_quote splits.distinct .quoteInQuoted))
      exact pair.append ih
    next other =>
      have kept : step (Dialect.ofChar separator) .quoted c = (.quoted, [.symbol c]) :=
        if_neg other
      exact .cons kept ih

/-- A value is copied. An empty bare one leaves no trace. -/
private theorem reads_value (splits : Splits separator) {value text : List Char}
    (writes : WritesValue separator value text) {p : Position}
    (start : p = .recordStart ∨ p = .fieldStart) :
    ∃ q, Reads (Dialect.ofChar separator) p text (value.map .symbol) q ∧
      (text = [] ∧ q = p ∨ InRow q) := by
  cases writes with
  | bare plain =>
    cases value with
    | nil =>
      -- The reader has not moved; what follows has to end the field.
      exact ⟨p, .nil p, .inl ⟨rfl, rfl⟩⟩
    | cons c value =>
      refine ⟨p.plain, Reads.plain plain p, .inr (.inr (.inl ?_))⟩
      rcases start with rfl | rfl <;> rfl
  | quoted =>
    have opens : step (Dialect.ofChar separator) p '"' = (.quoted, []) := by
      rcases start with rfl | rfl
      · exact step_quote splits.distinct .recordStart
      · exact step_quote splits.distinct .fieldStart
    have closes := Reads.single (step_quote splits.distinct .quoted)
    have read := Reads.cons opens ((reads_doubled splits value).append closes)
    rw [List.append_nil, List.nil_append] at read
    exact ⟨.quoteInQuoted, read, .inr (.inr (.inr rfl))⟩

private theorem step_separator_inRow (splits : Splits separator) {p : Position}
    (inside : p = .recordStart ∨ InRow p) :
    step (Dialect.ofChar separator) p separator = (.fieldStart, [.endField]) := by
  have moved := step_separator splits.distinct p
  rcases inside with rfl | rfl | rfl | rfl <;> exact moved

private theorem reads_values (splits : Splits separator) {row : List (List Char)} {text : List Char}
    (writes : WritesValues separator row text) {p : Position}
    (start : p = .recordStart ∧ text ≠ [] ∨ p = .fieldStart) :
    ∃ q, Reads (Dialect.ofChar separator) p text (rowEvents row) q ∧ InRow q := by
  induction writes generalizing p with
  | last value =>
    obtain ⟨q, read, inside⟩ := reads_value splits value (start.imp_left And.left)
    refine ⟨q, read, ?_⟩
    -- At the start of a record the value cannot be an empty bare one, or nothing were on the line.
    rcases inside with ⟨empty, rfl⟩ | inside
    · rcases start with ⟨-, nonempty⟩ | rfl
      · exact absurd empty nonempty
      · exact .inl rfl
    · exact inside
  | @more value text rest row writes more ih =>
    obtain ⟨q, read, inside⟩ := reads_value splits writes (start.imp_left And.left)
    -- A separator ends an empty first value too.
    have splitsAt : q = .recordStart ∨ InRow q := by
      rcases inside with ⟨-, rfl⟩ | inside
      · exact start.imp And.left .inl
      · exact .inr inside
    obtain ⟨last, later, ended⟩ := ih (.inr rfl)
    refine ⟨last, ?_, ended⟩
    have whole := read.append (.cons (step_separator_inRow splits splitsAt) later)
    cases more <;> exact whole

private theorem reads_lineBreak (splits : Splits separator) {line : List Char}
    (ends : LineBreak line) {p : Position} (inside : InRow p) :
    Reads (Dialect.ofChar separator) p line [.endField, .endRecord] .recordStart := by
  cases ends with
  | feed =>
    have moved := step_feed splits.distinct p
    rcases inside with rfl | rfl | rfl <;> exact .single moved
  | returnFeed =>
    have moved := step_return splits.distinct p
    have skipped := Reads.single (step_feed splits.distinct .afterReturn)
    rcases inside with rfl | rfl | rfl <;> exact .cons moved skipped

private theorem reads_blankLines (splits : Splits separator) {text : List Char}
    (blank : BlankLines text) :
    Reads (Dialect.ofChar separator) .recordStart text [] .recordStart := by
  induction blank with
  | none => exact .nil _
  | more line _ ih =>
    have feed := step_feed splits.distinct .recordStart
    cases line with
    | feed => exact .cons feed ih
    | returnFeed => exact .cons (step_return splits.distinct .recordStart) (.cons feed ih)

private theorem finish_inRow {p : Position} (inside : InRow p) :
    (finish p : List (Event Char)) = [.endField, .endRecord] := by
  rcases inside with rfl | rfl | rfl <;> rfl

/-- The reader finds the rows of a written table, however it is written. -/
theorem records_written (splits : Splits separator) {rows : List (List (List Char))}
    {text : List Char} (writes : WritesRows separator rows text) :
    records (Dialect.ofChar separator) text = rows := by
  rw [records]
  -- Blank lines cause nothing, a row the events of its values, and its line break ends it.
  induction writes with
  | blank blank => rw [(reads_blankLines splits blank).events_eq]; rfl
  | row blank row line _ ih =>
    obtain ⟨q, read, inside⟩ := reads_values splits row.1 (.inl ⟨rfl, row.2⟩)
    rw [(reads_blankLines splits blank).events_append, read.events_append,
      (reads_lineBreak splits line inside).events_append]
    exact (assemble_row row.1.ne_nil _).trans (congrArg _ ih)
  | unended blank row =>
    obtain ⟨q, read, inside⟩ := reads_values splits row.1 (.inl ⟨rfl, row.2⟩)
    rw [(reads_blankLines splits blank).events_append, read.events_eq, finish_inRow inside]
    exact assemble_row row.1.ne_nil []

end Reader

theorem body_of_ne {text : List Char} (other : text.head? ≠ some mark) :
    body separator text = text := by
  cases text with
  | nil => rfl
  | cons c rest => exact if_neg fun marked => other (congrArg some marked.1)

end FormLetter.Csv

namespace FormLetter.Table

open Csv

/-- A written table is the table of its rows. -/
theorem load_eq_ofRows {options : TableOptions} (splits : Splits options.separator)
    {rows : List (List String)} {text : List Char}
    (writes : WritesRows options.separator (rows.map (·.map String.toList)) text)
    (noMark : text.head? ≠ some mark)
    (free : ¬ StandIn.isAscii options.separator → ∃ c ∈ StandIn.candidates, c ∉ text) :
    load text options = ofRows options rows := by
  obtain ⟨standIn, chosen⟩ := StandIn.exists_choose? free
  have found := rows_eq splits chosen
  rw [body_of_ne noMark, Reader.records_written splits writes] at found
  have texts : (rows.map (·.map String.toList)).map (·.map String.ofList) = rows := by
    simp only [List.map_map, Function.comp_def, String.ofList_toList, List.map_id_fun', id]
  -- The check passes first, and the rows read are turned back into strings.
  rw [load, Quoting.check_written splits writes]
  simp only [found]
  exact congrArg (ofRows options) texts

/-- Loading undoes every way of writing a table: the first row is the header, or data like the
others, and every record has the values of its row under the headers and its number. -/
theorem load_written (options : TableOptions) (splits : Splits options.separator)
    (first : List String) (others : List (List String)) (text : List Char)
    (writes : WritesRows options.separator ((first :: others).map (·.map String.toList)) text)
    (noMark : text.head? ≠ some '\uFEFF')
    (free : ¬ StandIn.isAscii options.separator →
      ∃ c : Char, 0 < c.toNat ∧ c.toNat < 0x80 ∧ Splits c ∧ c ∉ text) :
    ∃ table, load text options = .ok table ∧
      table.headers = (if options.hasHeader then first
        else (List.range first.length).map fun i => "C" ++ Decimal.ofNat (i + 1)) ∧
      table.records.length = (if options.hasHeader then others else first :: others).length ∧
      ∀ k row, (if options.hasHeader then others else first :: others)[k]? = some row →
        ∃ record, table.records[k]? = some record ∧
          record.get? options.counter = some (Decimal.ofNat (k + 1)) ∧
          (∀ i name, table.headers[i]? = some name → name ∉ table.headers.drop (i + 1) →
            name ≠ options.counter → record.get? name = some (row.getD i "")) ∧
          ∀ name, name ∉ table.headers → name ≠ options.counter → record.get? name = none := by
  have candidate : ¬ StandIn.isAscii options.separator → ∃ c ∈ StandIn.candidates, c ∉ text := by
    intro wide
    obtain ⟨c, positive, below, ok, absent⟩ := free wide
    exact ⟨c, StandIn.mem_candidates.mpr ⟨positive, below, ok⟩, absent⟩
  have loaded := load_eq_ofRows splits writes noMark candidate
  have filled : ∀ row ∈ first :: others, row ≠ [] := by simpa using writes.filled
  rw [ofRows_eq options filled] at loaded
  refine ⟨_, loaded, rfl, List.length_mapIdx, ?_⟩
  intro k row here
  refine ⟨_, (List.getElem?_mapIdx ..).trans (congrArg _ here), ?_, ?_, ?_⟩
  · exact get?_record_counter ..
  · intro i name at_ last other
    exact get?_record at_ last other ..
  · intro name absent other
    exact get?_record_of_notMem absent other ..

/-- Blank lines, both line breaks, quoted values that hold the separator, a quote and a line break,
and a last line left open. -/
theorem load_written_section_sign :
    ∃ table, load "\r\na§\"b\"\"\"\n\n\"x§\r\n\"§y".toList ⟨'§', true, "n"⟩ = .ok table ∧
      table.headers = ["a", "b\""] ∧ table.records.length = 1 ∧
      ∀ k row, [["x§\r\n", "y"]][k]? = some row →
        ∃ record, table.records[k]? = some record ∧
          record.get? "n" = some (Decimal.ofNat (k + 1)) ∧
          (∀ i name, table.headers[i]? = some name → name ∉ table.headers.drop (i + 1) →
            name ≠ "n" → record.get? name = some (row.getD i "")) ∧
          ∀ name, name ∉ table.headers → name ≠ "n" → record.get? name = none := by
  have bare {c : Char} (plain : (Dialect.ofChar '§').Plain c) : WritesValue '§' [c] [c] :=
    .bare (by simpa using plain)
  have header : WritesRow '§' ["a".toList, "b\"".toList] "a§\"b\"\"\"".toList :=
    ⟨.more (bare (by decide)) (.last (.quoted ['b', '"'])), by decide⟩
  have row : WritesRow '§' ["x§\r\n".toList, "y".toList] "\"x§\r\n\"§y".toList :=
    ⟨.more (.quoted ['x', '§', '\r', '\n']) (.last (bare (by decide))), by decide⟩
  exact load_written ⟨'§', true, "n"⟩ ⟨by decide, by decide, by decide⟩ ["a", "b\""]
    [["x§\r\n", "y"]] _
    (.row (.more .returnFeed .none) header .feed (.unended (.more .feed .none) row))
    (by decide) (fun _ => ⟨'z', by decide, by decide, ⟨by decide, by decide, by decide⟩, by decide⟩)

end FormLetter.Table
