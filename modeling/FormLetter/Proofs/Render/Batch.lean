import FormLetter.Proofs.Render.Recorded
import FormLetter.Proofs.Render.Rows

/-!
What a batch does. Every row that does not end the batch leaves a report: its output was written,
or its destination was refused. The calls to the engine, the two streams and the verdict on the
whole batch can be read off the reports.
-/
namespace FormLetter

/-- What became of a row. -/
inductive RowReport where
  | written (name : String) (content : Bytes)
  | skipped (name : String) (cause : SinkError)
  deriving DecidableEq, Repr

namespace RowReport

def ending : RowReport → RowEnd
  | .written _ _ => .written
  | .skipped _ _ => .skipped

/-- What the engine was asked to do. -/
def calls (record : Record) : RowReport → List Call
  | .written _ _ =>
    [.execute outputTemplate (rowContext record), .execute contentTemplate (rowContext record)]
  | .skipped _ _ => [.execute outputTemplate (rowContext record)]

/-- What was printed: the content where a dash is the name, then the name. -/
def stdout : RowReport → Bytes
  | .written name content => (if name = "-" then content else []) ++ bytesOf (name ++ "\n")
  | .skipped _ _ => []

/-- What was reported. -/
def stderr : RowReport → Bytes
  | .written _ _ => []
  | .skipped name cause => bytesOf ("  " ++ name ++ ": " ++ cause.message ++ "\n")

end RowReport

variable {σ : Type}

/-- One row of a batch, on an engine and a file system whose streams take everything. -/
inductive RowRun (e : Engine σ) (force : Bool) (record : Record) :
    σ → FileTree → RowReport → σ → FileTree → Prop where
  | skipped {engine named : σ} {files made : FileTree} {name : String} {cause : SinkError} :
      e.executeToString engine outputTemplate (rowContext record) = (named, .ok name) →
      name ≠ "" → name ≠ "-" → openPath files name force = (made, .error cause) →
      RowRun e force record engine files (.skipped name cause) named made
  | file {engine named filled : σ} {files made : FileTree} {name : String} {spot : Location}
      {content : Bytes} :
      e.executeToString engine outputTemplate (rowContext record) = (named, .ok name) →
      name ≠ "" → name ≠ "-" → openPath files name force = (made, .ok spot) →
      e.execute named contentTemplate (rowContext record) = (filled, ⟨content, none⟩) →
      RowRun e force record engine files (.written name content) filled (made.append spot content)
  | dash {engine named filled : σ} {files : FileTree} {content : Bytes} :
      e.executeToString engine outputTemplate (rowContext record) = (named, .ok "-") →
      e.execute named contentTemplate (rowContext record) = (filled, ⟨content, none⟩) →
      RowRun e force record engine files (.written "-" content) filled files

/-- The rows of a batch and their reports. -/
inductive Batch (e : Engine σ) (force : Bool) :
    σ → FileTree → List Record → List RowReport → σ → FileTree → Prop where
  | done (engine : σ) (files : FileTree) : Batch e force engine files [] [] engine files
  | row {engine next last : σ} {files made final : FileTree} {record : Record}
      {rest : List Record} {report : RowReport} {reports : List RowReport} :
      RowRun e force record engine files report next made →
      Batch e force next made rest reports last final →
      Batch e force engine files (record :: rest) (report :: reports) last final

/-- A session whose streams take everything. -/
def Session.onStreams (engine : σ) (files : FileTree) (out err : Bytes) : Session σ :=
  ⟨engine, ⟨files, ⟨out, none, false⟩, ⟨err, none, false⟩⟩⟩

variable {e : Engine σ} {force : Bool}

/-! ### One row -/

theorem Destination.parse_of_ne {name : String} (nonempty : name ≠ "") (noDash : name ≠ "-") :
    parse name = .file name := by
  simp [parse, stdioName, nonempty, noDash]

theorem openSink_onStreams {files made : FileTree} {name : String}
    {result : Except SinkError Location} (nonempty : name ≠ "") (noDash : name ≠ "-")
    (opened : openPath files name force = (made, result)) (engine : σ) (out err : Bytes) :
    (Session.onStreams engine files out err).world.openSink (.parse name) force =
      ((Session.onStreams engine made out err).world, result.map .file) := by
  simp [Session.onStreams, World.openSink, Destination.parse_of_ne nonempty noDash, opened]

@[simp] theorem Session.onStreams_world (engine engine' : σ) (files : FileTree) (out err : Bytes) :
    (⟨engine', (onStreams engine files out err).world⟩ : Session σ) =
      onStreams engine' files out err :=
  rfl

theorem skipRow_onStreams (engine : σ) (files : FileTree) (out err : Bytes) (name : String)
    (cause : SinkError) :
    skipRow (.onStreams engine files out err) name cause =
      (.onStreams engine files out (err ++ (RowReport.skipped name cause).stderr), .ok .skipped) :=
  rfl

theorem writeRow_file (e : Engine σ) {engine filled : σ} {context : Json} {content : Bytes}
    (executed : e.execute engine contentTemplate context = (filled, ⟨content, none⟩))
    (files : FileTree) (out err : Bytes) (name : String) (spot : Location) :
    writeRow e (.onStreams engine files out err) context name (.file spot) =
      (.onStreams filled (files.append spot content) (out ++ bytesOf (name ++ "\n")) err,
        .ok .written) := by
  simp only [writeRow, Session.fill, Session.onStreams, executed]
  rfl

theorem writeRow_stdout (e : Engine σ) {engine filled : σ} {context : Json} {content : Bytes}
    (executed : e.execute engine contentTemplate context = (filled, ⟨content, none⟩))
    (files : FileTree) (out err : Bytes) (name : String) :
    writeRow e (.onStreams engine files out err) context name .stdout =
      (.onStreams filled files (out ++ content ++ bytesOf (name ++ "\n")) err, .ok .written) := by
  simp only [writeRow, Session.fill, Session.onStreams, executed]
  rfl

/-- A row that ran leaves its report behind. -/
theorem RowRun.renderRow_recorded {record : Record} {engine next : σ} {files made : FileTree}
    {report : RowReport} (ran : RowRun e force record engine files report next made)
    (calls : List Call) (out err : Bytes) (row : Nat) :
    renderRow e.recorded force (.onStreams (engine, calls) files out err) row record =
      (.onStreams (next, calls ++ report.calls record) made (out ++ report.stdout)
        (err ++ report.stderr), .ok report.ending) := by
  have naming {named : σ} {name : String} (first : e.executeToString engine outputTemplate
      (rowContext record) = (named, .ok name)) :
      e.recorded.executeToString (engine, calls) outputTemplate (rowContext record) =
        ((named, calls ++ [.execute outputTemplate (rowContext record)]), .ok name) := by
    rw [executeToString_recorded, first]
  have filling {named filled : σ} {content : Bytes} (second : e.execute named contentTemplate
      (rowContext record) = (filled, ⟨content, none⟩)) :
      e.recorded.execute (named, calls ++ [.execute outputTemplate (rowContext record)])
          contentTemplate (rowContext record) =
        ((filled, calls ++ [.execute outputTemplate (rowContext record)] ++
          [.execute contentTemplate (rowContext record)]), ⟨content, none⟩) := by
    simp only [Engine.recorded, second]
  -- Which destination it is decides what is opened, and that decides how the row ends.
  cases ran with
  | skipped named nonempty noDash refused =>
    have opened := openSink_onStreams nonempty noDash refused (engine, calls) out err
    rw [renderRow_of_error (naming named) nonempty row opened]
    simpa [RowReport.calls, RowReport.stdout, RowReport.ending] using
      skipRow_onStreams _ made out err _ _
  | file named nonempty noDash opened executed =>
    have opened := openSink_onStreams nonempty noDash opened (engine, calls) out err
    rw [renderRow_of_ok (naming named) nonempty row opened]
    have wrote := writeRow_file e.recorded (filling executed)
    simpa [RowReport.calls, RowReport.stdout, RowReport.stderr, RowReport.ending, noDash] using
      wrote _ out err _ _
  | dash named executed =>
    have opened : (Session.onStreams (engine, calls) files out err).world.openSink (.parse "-")
      force = ((Session.onStreams (engine, calls) files out err).world, .ok .stdout) := rfl
    rw [renderRow_of_ok (naming named) (by decide) row opened]
    simpa [RowReport.calls, RowReport.stdout, RowReport.stderr, RowReport.ending] using
      writeRow_stdout e.recorded (filling executed) files out err "-"

theorem RowRun.renderRow {record : Record} {engine next : σ} {files made : FileTree}
    {report : RowReport} (ran : RowRun e force record engine files report next made)
    (out err : Bytes) (row : Nat) :
    renderRow e force (.onStreams engine files out err) row record =
      (.onStreams next made (out ++ report.stdout) (err ++ report.stderr), .ok report.ending) := by
  have forgotten := @forget_renderRow _ force e (.onStreams (engine, []) files out err) row record
  rw [ran.renderRow_recorded] at forgotten
  exact forgotten

theorem exists_of_writeRow {s next : Session σ} {context : Json} {name : String} {sink : Sink}
    {ending : RowEnd} (wrote : writeRow e s context name sink = (next, .ok ending)) :
    ∃ filled content,
      e.execute s.engine contentTemplate context = (filled, ⟨content, none⟩) := by
  cases executed : e.execute s.engine contentTemplate context with
  | mk filled x =>
    obtain ⟨content, failure⟩ := x
    cases failure with
    | none => exact ⟨filled, content, rfl⟩
    | some fault =>
      -- With a failure of its own, or a refused write, the row does not end well.
      cases written : s.world.write content sink with
      | mk world result =>
        cases result <;> simp [writeRow, Session.fill, executed, Engine.outcome, written] at wrote

/-- A row that does not end its batch leaves a report. -/
theorem exists_rowRun {s next : Session σ} {row : Nat} {record : Record} {ending : RowEnd}
    (ran : renderRow e force s row record = (next, .ok ending)) :
    ∃ report engine files, RowRun e force record s.engine s.world.files report engine files := by
  obtain ⟨engine, name, world, named, nonempty, ended⟩ := cases_of_renderRow ran
  by_cases dash : name = "-"
  · subst dash
    rcases ended with ⟨cause, refused, -⟩ | ⟨sink, -, wrote⟩
    · cases refused
    · obtain ⟨filled, content, executed⟩ := exists_of_writeRow wrote
      exact ⟨_, _, _, .dash named executed⟩
  · rw [Destination.parse_of_ne nonempty dash, World.openSink] at ended
    cases opened : openPath s.world.files name force with
    | mk made result =>
      rw [opened] at ended
      cases result with
      | error cause => exact ⟨_, _, _, .skipped named nonempty dash opened⟩
      | ok spot =>
        rcases ended with ⟨cause, refused, -⟩ | ⟨sink, -, wrote⟩
        · cases refused
        · obtain ⟨filled, content, executed⟩ := exists_of_writeRow wrote
          exact ⟨_, _, _, .file named nonempty dash opened executed⟩

/-! ### The whole batch -/

namespace RowReport

/-- How many rows ended in that way. -/
def count (ending : RowEnd) (reports : List RowReport) : Nat :=
  reports.countP (·.ending = ending)

/-- The calls for some records, in order. -/
def allCalls (records : List Record) (reports : List RowReport) : List Call :=
  (records.zip reports).flatMap fun (record, report) => report.calls record

end RowReport

theorem Tally.count_ending (tally : Tally) (report : RowReport) (reports : List RowReport) :
    (⟨(tally.count report.ending).written + RowReport.count .written reports,
        (tally.count report.ending).skipped + RowReport.count .skipped reports⟩ : Tally) =
      ⟨tally.written + RowReport.count .written (report :: reports),
        tally.skipped + RowReport.count .skipped (report :: reports)⟩ := by
  cases report <;>
    simp [Tally.count, RowReport.ending, RowReport.count] <;> omega

namespace Batch

variable {engine last : σ} {files final : FileTree} {records : List Record}
  {reports : List RowReport}

theorem length_eq (batch : Batch e force engine files records reports last final) :
    reports.length = records.length := by
  induction batch with
  | done => rfl
  | row ran batch ih => simp [ih]

/-- The reports say everything about the rows of a batch. -/
theorem renderRows_recorded (batch : Batch e force engine files records reports last final)
    (calls : List Call) (out err : Bytes) (row : Nat) (tally : Tally) :
    renderRows e.recorded force (.onStreams (engine, calls) files out err) row tally records =
      (.onStreams (last, calls ++ RowReport.allCalls records reports) final
          (out ++ reports.flatMap RowReport.stdout) (err ++ reports.flatMap RowReport.stderr),
        .ok ⟨tally.written + RowReport.count .written reports,
          tally.skipped + RowReport.count .skipped reports⟩) := by
  -- Along the rows; what was called, printed and counted before is carried along.
  induction batch generalizing calls out err row tally with
  | done engine files => simp [renderRows, RowReport.allCalls, RowReport.count]
  | row ran batch ih =>
    rw [renderRows_cons (ran.renderRow_recorded calls out err row), ih, Tally.count_ending]
    simp [RowReport.allCalls]

theorem renderPerRow_recorded (batch : Batch e force engine files records reports last final)
    (calls : List Call) (out err : Bytes) :
    renderPerRow e.recorded records force (.onStreams (engine, calls) files out err) =
      (.onStreams (last, calls ++ RowReport.allCalls records reports) final
          (out ++ reports.flatMap RowReport.stdout) (err ++ reports.flatMap RowReport.stderr),
        if RowReport.count .skipped reports = 0 then .ok (RowReport.count .written reports)
        else .error (.filesNotWritten (RowReport.count .skipped reports))) := by
  rw [renderPerRow, batch.renderRows_recorded]
  by_cases none : RowReport.count .skipped reports = 0
  · simp [none]
  · simp [none, Nat.pos_of_ne_zero none]

end Batch

/-- Rows that do not end their batch leave their reports. -/
theorem exists_batch {engine : σ} {files : FileTree} {out err : Bytes} {row : Nat}
    {tally total : Tally} {records : List Record} {last : Session σ}
    (ran : renderRows e force (.onStreams engine files out err) row tally records =
      (last, .ok total)) :
    ∃ reports next final, Batch e force engine files records reports next final := by
  induction records generalizing engine files out err row tally with
  | nil => exact ⟨_, _, _, .done engine files⟩
  | cons record rest ih =>
    obtain ⟨next, ending, first, later⟩ := exists_of_renderRows_cons ran
    obtain ⟨report, between, made, rowRan⟩ := exists_rowRun first
    -- The report settles the session that the later rows start from.
    have reported := RowRun.renderRow rowRan out err row
    simp only [Session.onStreams] at reported first
    rw [reported] at first
    cases first
    obtain ⟨reports, last, final, batch⟩ := ih later
    exact ⟨_, _, _, .row rowRan batch⟩

/-- The context of a row, spelled out. -/
theorem rowContext_eq (record : Record) :
    rowContext record =
      .object (record.fields.map (fun (name, value) => (name, .string value)) ++
        if "row" ∈ record.keys then []
        else [("row", .object (record.fields.map fun (name, value) => (name, .string value)))]) := by
  unfold rowContext
  by_cases named : "row" ∈ record.keys
  · simp [named]
  · simp [named]

/-- A batch that no row ends, on streams that take everything: for every row the engine is asked
for the name and, if the destination could be opened, for the content on the same data, and for
nothing else. A destination that is refused only loses its row. What is printed, what is reported
and the verdict follow from the rows in order. -/
theorem renderPerRow_accounts (e : Engine σ) (force : Bool) (records : List Record) (engine : σ)
    (calls : List Call) (files : FileTree) (out err : Bytes)
    (survives : ∀ cause,
      (renderPerRow e records force (.onStreams engine files out err)).2 = .error cause →
      ∃ count, cause = .filesNotWritten count) :
    ∃ reports next final, Batch e force engine files records reports next final ∧
      reports.length = records.length ∧
      (∀ record ∈ records, rowContext record =
        .object (record.fields.map (fun (name, value) => (name, .string value)) ++
          if "row" ∈ record.keys then []
          else [("row", .object (record.fields.map fun (name, value) => (name, .string value)))])) ∧
      let printed := out ++ reports.flatMap RowReport.stdout
      let reported := err ++ reports.flatMap RowReport.stderr
      let written := RowReport.count .written reports
      let skipped := RowReport.count .skipped reports
      let verdict := if skipped = 0 then .ok written else .error (.filesNotWritten skipped)
      renderPerRow e.recorded records force (.onStreams (engine, calls) files out err) =
        (.onStreams (next, calls ++ RowReport.allCalls records reports) final printed reported,
          verdict) ∧
      renderPerRow e records force (.onStreams engine files out err) =
        (.onStreams next final printed reported, verdict) := by
  cases ran : renderRows e force (.onStreams engine files out err) 0 ⟨0, 0⟩ records with
  | mk last result =>
    cases result with
    | error cause =>
      -- A row that ends the batch does so with an error of its own.
      have ended : (renderPerRow e records force (.onStreams engine files out err)).2 =
        .error cause := by simp [renderPerRow, ran]
      obtain ⟨count, same⟩ := survives cause ended
      exact absurd same (renderRows_ne_filesNotWritten ran count)
    | ok total =>
      obtain ⟨reports, next, final, batch⟩ := exists_batch ran
      refine ⟨reports, next, final, batch, batch.length_eq, fun record _ => rowContext_eq record,
        batch.renderPerRow_recorded calls out err, ?_⟩
      have forgotten := @forget_renderPerRow _ force e records
        (.onStreams (engine, calls) files out err)
      rw [batch.renderPerRow_recorded] at forgotten
      exact forgotten

/-- Two records whose outputs have one name. -/
theorem renderPerRow_accounts_one_name :
    let e := Engine.constant [] (bytesOf "a")
    ∃ reports next final,
      Batch e false () ⟨[], []⟩ [Record.empty, Record.empty] reports next final ∧
        RowReport.count .skipped reports = 1 := by
  intro e
  have verdict : (renderPerRow e [Record.empty, Record.empty] false
    (.onStreams () ⟨[], []⟩ [] [])).2 = .error (.filesNotWritten 1) := rfl
  obtain ⟨reports, next, final, batch, -, -, -, same⟩ :=
    renderPerRow_accounts e false [Record.empty, Record.empty] () [] ⟨[], []⟩ [] [] (by
      intro cause ended
      rw [verdict] at ended
      exact ⟨1, (Except.error.inj ended).symm⟩)
  refine ⟨reports, next, final, batch, ?_⟩
  rw [same] at verdict
  dsimp only at verdict
  split at verdict
  next => cases verdict
  next => simpa using verdict

end FormLetter
