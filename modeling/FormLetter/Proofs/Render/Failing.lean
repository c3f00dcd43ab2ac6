import FormLetter.Proofs.Render.Joined
import FormLetter.Proofs.Render.Prepared

/-!
How runs fail on streams that take everything. A run fails before it renders, or for its one output,
or for a row that ends the batch, or for the rows it has skipped; standard error has the reports of
the rows in front and nothing else.
-/
namespace FormLetter

variable {σ : Type} {e : Engine σ} {force : Bool}

/-- How a row ends its batch, on an engine and a file system whose streams take everything. -/
inductive RowFailure (e : Engine σ) (force : Bool) (row : Nat) (record : Record) (engine : σ)
    (files : FileTree) : RunError → Prop where
  | unnamed {named : σ} {cause : RenderError} :
      e.executeToString engine outputTemplate (rowContext record) = (named, .error cause) →
      RowFailure e force row record engine files (.renderOutputName row cause)
  | nameless {named : σ} :
      e.executeToString engine outputTemplate (rowContext record) = (named, .ok "") →
      RowFailure e force row record engine files (.emptyOutputName row)
  | file {named filled : σ} {made : FileTree} {name : String} {spot : Location} {content : Bytes}
      {cause : RenderError} :
      e.executeToString engine outputTemplate (rowContext record) = (named, .ok name) →
      name ≠ "" → name ≠ "-" → openPath files name force = (made, .ok spot) →
      e.execute named contentTemplate (rowContext record) = (filled, ⟨content, some cause⟩) →
      RowFailure e force row record engine files (.renderContent name cause)
  | dash {named filled : σ} {content : Bytes} {cause : RenderError} :
      e.executeToString engine outputTemplate (rowContext record) = (named, .ok "-") →
      e.execute named contentTemplate (rowContext record) = (filled, ⟨content, some cause⟩) →
      RowFailure e force row record engine files (.renderContent "-" cause)

/-- How a run fails that starts in a session: the reports of the rows in front, and the cause. -/
inductive RunFailure (e : Engine σ) (config : Config) (stdin : Stdin) (s : Session σ) :
    List RowReport → RunError → Prop where
  | unprepared {last : Session σ} {cause : RunError} :
      prepare e config stdin s = (last, .error cause) →
      RunFailure e config stdin s [] cause
  | single {ready last : Session σ} {table : Table} {destination : Destination} {cause : RunError} :
      prepare e config stdin s = (ready, .ok table) →
      RenderMode.ofOut e config.out = .single destination →
      renderSingle e table destination config.force ready = (last, .error cause) →
      RunFailure e config stdin s [] cause
  | cut {ready : Session σ} {table : Table} {name : String} {before after : List Record}
      {record : Record} {reports : List RowReport} {next : σ} {made : FileTree} {cause : RunError} :
      prepare e config stdin s = (ready, .ok table) →
      RenderMode.ofOut e config.out = .perRow name →
      table.records = before ++ record :: after →
      Batch e config.force ready.engine ready.world.files before reports next made →
      RowFailure e config.force before.length record next made cause →
      RunFailure e config stdin s reports cause
  | skipped {ready : Session σ} {table : Table} {name : String} {reports : List RowReport}
      {next : σ} {final : FileTree} :
      prepare e config stdin s = (ready, .ok table) →
      RenderMode.ofOut e config.out = .perRow name →
      Batch e config.force ready.engine ready.world.files table.records reports next final →
      RowReport.count .skipped reports ≠ 0 →
      RunFailure e config stdin s reports (.filesNotWritten (RowReport.count .skipped reports))

/-! ### Steps on streams that take everything -/

theorem fill_onStreams (e : Engine σ) (engine : σ) (files : FileTree) (out err : Bytes)
    (context : Json) (sink : Sink) :
    ∃ files' out', Session.fill e (.onStreams engine files out err) context sink =
      (.onStreams (e.execute engine contentTemplate context).1 files' out' err,
        e.outcome (e.execute engine contentTemplate context).2 (.ok ())) := by
  cases sink <;> exact ⟨_, _, rfl⟩

theorem finish_onStreams (engine : σ) (files : FileTree) (out err : Bytes) (sink : Sink)
    (announcement : String) :
    ∃ out', (Session.onStreams engine files out err).finish sink announcement =
      (.onStreams engine files out' err, .ok ()) := by
  cases sink <;> exact ⟨_, rfl⟩

theorem openStep_onStreams (force : Bool) (engine : σ) (files : FileTree) (out err : Bytes)
    (d : Destination) :
    ∃ made opened, openStep d force (.onStreams engine files out err) =
      (.onStreams engine made out err, .ok opened) := by
  cases d <;> exact ⟨_, _, rfl⟩

/-- The content of a row is not written as a whole exactly if its template fails. -/
theorem writeRow_onStreams (e : Engine σ) (engine : σ) (files : FileTree) (out err : Bytes)
    (context : Json) (name : String) (sink : Sink) :
    ∃ files' out', writeRow e (.onStreams engine files out err) context name sink =
      (.onStreams (e.execute engine contentTemplate context).1 files' out' err,
        match (e.execute engine contentTemplate context).2.failure with
        | some cause => .error (.renderContent name cause)
        | none => .ok .written) := by
  obtain ⟨files', out', filled⟩ := fill_onStreams e engine files out err context sink
  rw [writeRow, filled, Engine.outcome]
  cases (e.execute engine contentTemplate context).2.failure with
  | some cause => exact ⟨files', out', rfl⟩
  | none =>
    obtain ⟨out'', finished⟩ := finish_onStreams (e.execute engine contentTemplate context).1 files'
      out' err sink (name ++ "\n")
    exact ⟨files', out'', by simp [finished, Except.map]⟩

/-! ### One row -/

/-- A row that ends its batch reports nothing itself. -/
theorem RowFailure.renderRow {row : Nat} {record : Record} {engine : σ} {files : FileTree}
    {cause : RunError} (failed : RowFailure e force row record engine files cause)
    (out err : Bytes) :
    ∃ next made out', FormLetter.renderRow e force (.onStreams engine files out err) row record =
      (.onStreams next made out' err, .error cause) := by
  cases failed with
  | @unnamed named cause refused =>
    refine ⟨named, files, out, ?_⟩
    simp [FormLetter.renderRow, Session.onStreams, refused]
  | @nameless named empty =>
    refine ⟨named, files, out, ?_⟩
    simp [FormLetter.renderRow, Session.onStreams, empty]
  | @file named filled made name spot content cause naming nonempty noDash opened broken =>
    have opened := openSink_onStreams nonempty noDash opened engine out err
    obtain ⟨files', out', wrote⟩ :=
      writeRow_onStreams e named made out err (rowContext record) name (.file spot)
    rw [broken] at wrote
    exact ⟨filled, files', out', (renderRow_of_ok naming nonempty row opened).trans wrote⟩
  | @dash named filled content cause naming broken =>
    have opened : (Session.onStreams engine files out err).world.openSink (.parse "-") force =
      ((Session.onStreams engine files out err).world, .ok .stdout) := rfl
    obtain ⟨files', out', wrote⟩ :=
      writeRow_onStreams e named files out err (rowContext record) "-" .stdout
    rw [broken] at wrote
    exact ⟨filled, files', out', (renderRow_of_ok naming (by decide) row opened).trans wrote⟩

/-- The content of a row whose output could be opened fails for its template only. -/
theorem exists_of_writeRow_error {engine : σ} {files : FileTree} {out err : Bytes} {context : Json}
    {name : String} {sink : Sink} {last : Session σ} {cause : RunError}
    (ended : writeRow e (.onStreams engine files out err) context name sink =
      (last, .error cause)) :
    ∃ filled content fault, e.execute engine contentTemplate context =
      (filled, ⟨content, some fault⟩) ∧ cause = .renderContent name fault := by
  obtain ⟨files', out', wrote⟩ := writeRow_onStreams e engine files out err context name sink
  rw [ended] at wrote
  cases executed : e.execute engine contentTemplate context with
  | mk filled x =>
    obtain ⟨content, failure⟩ := x
    rw [executed] at wrote
    cases failure with
    | none => cases wrote
    | some fault =>
      cases wrote
      exact ⟨filled, content, fault, rfl, rfl⟩

theorem rowFailure_of_renderRow {row : Nat} {record : Record} {engine : σ} {files : FileTree}
    {out err : Bytes} {cause : RunError} {last : Session σ}
    (ended : renderRow e force (.onStreams engine files out err) row record =
      (last, .error cause)) :
    RowFailure e force row record engine files cause := by
  cases naming : e.executeToString engine outputTemplate (rowContext record) with
  | mk named result =>
    cases result with
    | error fault =>
      simp only [renderRow, Session.onStreams, naming] at ended
      cases ended
      exact .unnamed naming
    | ok name =>
      by_cases nonempty : name = ""
      · subst nonempty
        simp only [renderRow, Session.onStreams, naming] at ended
        cases ended
        exact .nameless naming
      by_cases dash : name = "-"
      · subst dash
        have opened : (Session.onStreams engine files out err).world.openSink (.parse "-") force =
          ((Session.onStreams engine files out err).world, .ok .stdout) := rfl
        rw [renderRow_of_ok naming nonempty row opened] at ended
        obtain ⟨filled, content, fault, broken, rfl⟩ := exists_of_writeRow_error ended
        exact .dash naming broken
      cases placed : openPath files name force with
      | mk made result =>
        have opened := openSink_onStreams nonempty dash placed engine out err
        cases result with
        | error refusal =>
          -- A refused destination does not end the batch.
          rw [renderRow_of_error naming nonempty row opened] at ended
          cases ended
        | ok spot =>
          rw [renderRow_of_ok naming nonempty row opened] at ended
          obtain ⟨filled, content, fault, broken, rfl⟩ := exists_of_writeRow_error ended
          exact .file naming nonempty dash placed broken

/-! ### All rows -/

theorem Batch.renderRows_cut {engine next : σ} {files made : FileTree} {before after : List Record}
    {record : Record} {reports : List RowReport} {cause : RunError} {row : Nat}
    (batch : Batch e force engine files before reports next made)
    (failed : RowFailure e force (row + before.length) record next made cause) (out err : Bytes)
    (tally : Tally) :
    ∃ last final out',
      renderRows e force (.onStreams engine files out err) row tally (before ++ record :: after) =
        (.onStreams last final out' (err ++ reports.flatMap RowReport.stderr), .error cause) := by
  obtain ⟨total, ran⟩ := batch.renderRows_onStreams out err row tally
  obtain ⟨last, final, out', ended⟩ := failed.renderRow (out ++ reports.flatMap RowReport.stdout)
    (err ++ reports.flatMap RowReport.stderr)
  refine ⟨last, final, out', ?_⟩
  rw [renderRows_append ran, renderRows, ended]

/-- Rows that end their batch have a first one that does, behind rows that leave reports. -/
theorem exists_cut {engine : σ} {files : FileTree} {out err : Bytes} {row : Nat} {tally : Tally}
    {records : List Record} {last : Session σ} {cause : RunError}
    (ended : renderRows e force (.onStreams engine files out err) row tally records =
      (last, .error cause)) :
    ∃ before record after reports next made, records = before ++ record :: after ∧
      Batch e force engine files before reports next made ∧
      RowFailure e force (row + before.length) record next made cause := by
  induction records generalizing engine files out err row tally with
  | nil => cases ended
  | cons record rest ih =>
    cases first : renderRow e force (.onStreams engine files out err) row record with
    | mk next result =>
      cases result with
      | error fault =>
        rw [renderRows, first] at ended
        cases ended
        exact ⟨[], record, rest, [], engine, files, rfl, .done engine files,
          rowFailure_of_renderRow first⟩
      | ok ending =>
        rw [renderRows_cons first] at ended
        obtain ⟨report, between, made, ran⟩ := exists_rowRun first
        -- The report settles the session that the later rows start from.
        have reported := RowRun.renderRow ran out err row
        simp only [Session.onStreams] at reported first
        rw [reported] at first
        cases first
        obtain ⟨before, cut, after, reports, last, final, rfl, batch, failed⟩ := ih ended
        refine ⟨record :: before, cut, after, report :: reports, last, final, rfl,
          .row ran batch, ?_⟩
        rwa [List.length_cons, Nat.add_comm before.length 1, ← Nat.add_assoc]

/-- A batch that no row has ended. -/
theorem Batch.renderPerRow_onStreams {engine last : σ} {files final : FileTree}
    {records : List Record} {reports : List RowReport}
    (batch : Batch e force engine files records reports last final) (out err : Bytes) :
    renderPerRow e records force (.onStreams engine files out err) =
      (.onStreams last final (out ++ reports.flatMap RowReport.stdout)
          (err ++ reports.flatMap RowReport.stderr),
        if RowReport.count .skipped reports = 0 then .ok (RowReport.count .written reports)
        else .error (.filesNotWritten (RowReport.count .skipped reports))) := by
  have forgotten := @forget_renderPerRow _ force e records (.onStreams (engine, []) files out err)
  rw [batch.renderPerRow_recorded] at forgotten
  exact forgotten

/-- Only rows that were skipped leave anything on standard error. -/
theorem RowReport.stderr_of_none_skipped {reports : List RowReport}
    (none : RowReport.count .skipped reports = 0) : reports.flatMap RowReport.stderr = [] := by
  refine List.flatMap_eq_nil_iff.mpr fun report mem => ?_
  have unskipped := List.countP_eq_zero.mp none report mem
  cases report with
  | written => rfl
  | skipped => exact absurd rfl unskipped

/-! ### Whole runs -/

theorem prepare_world (e : Engine σ) (config : Config) (stdin : Stdin) (s : Session σ) :
    (prepare e config stdin s).1.world = s.world := by
  unfold prepare
  split <;> rfl

theorem exists_of_prepare {config : Config} {stdin : Stdin} {engine : σ} {files : FileTree}
    {out err : Bytes} {ready : Session σ} {result : Except RunError Table}
    (prepared : prepare e config stdin (.onStreams engine files out err) = (ready, result)) :
    ∃ next, ready = .onStreams next files out err := by
  have world := prepare_world e config stdin (.onStreams engine files out err)
  rw [prepared] at world
  obtain ⟨next, _⟩ := ready
  cases world
  exact ⟨next, rfl⟩

/-- One output leaves nothing on standard error. -/
theorem renderSingle_onStreams (e : Engine σ) (force : Bool) (table : Table) (d : Destination)
    (engine : σ) (files : FileTree) (out err : Bytes) :
    ∃ next made out', (renderSingle e table d force (.onStreams engine files out err)).1 =
      .onStreams next made out' err := by
  obtain ⟨made, opened, step⟩ := openStep_onStreams force engine files out err d
  rw [renderSingle_eq, step, Session.andThen_ok]
  cases opened with
  | error cause => exact ⟨_, _, _, rfl⟩
  | ok sink =>
    obtain ⟨files', out', filled⟩ := fill_onStreams e engine made out err (singleContext table) sink
    simp only [filled]
    cases e.outcome (e.execute engine contentTemplate (singleContext table)).2 (.ok ()) with
    | error cause => exact ⟨_, _, _, rfl⟩
    | ok =>
      obtain ⟨out'', finished⟩ := finish_onStreams
        (e.execute engine contentTemplate (singleContext table)).1 files' out' err sink
        (savedMessage d)
      exact ⟨_, _, _, congrArg Prod.fst finished⟩

section Runs

variable {config : Config} {stdin : Stdin} {engine : σ} {files : FileTree} {out err : Bytes}

/-- What a run does that fails in one of these ways. -/
theorem RunFailure.runWith {reports : List RowReport} {cause : RunError}
    (failed : RunFailure e config stdin (.onStreams engine files out err) reports cause) :
    ∃ next made out', FormLetter.runWith e config stdin (.onStreams engine files out err) =
      (.onStreams next made out' (err ++ reports.flatMap RowReport.stderr), .error cause) := by
  rw [runWith_eq]
  cases failed with
  | unprepared refused =>
    obtain ⟨next, rfl⟩ := exists_of_prepare refused
    exact ⟨next, files, out, by simp [refused]⟩
  | single prepared mode ended =>
    obtain ⟨next, rfl⟩ := exists_of_prepare prepared
    obtain ⟨last, made, out', same⟩ :=
      renderSingle_onStreams e config.force _ _ next files out err
    rw [ended] at same
    refine ⟨last, made, out', ?_⟩
    simp only [prepared, Session.andThen_ok, render, mode, ended]
    simpa using same
  | cut prepared mode split batch failed =>
    obtain ⟨next, rfl⟩ := exists_of_prepare prepared
    change Batch e config.force next files _ _ _ _ at batch
    rw [← Nat.zero_add (List.length _)] at failed
    obtain ⟨last, final, out', ended⟩ := batch.renderRows_cut failed out err ⟨0, 0⟩
    refine ⟨last, final, out', ?_⟩
    rw [← split] at ended
    simp only [prepared, Session.andThen_ok, render, mode]
    rw [renderPerRow_eq_error ended, Session.andThen_error, id]
  | @skipped _ table _ reports last final prepared mode batch skipped =>
    obtain ⟨next, rfl⟩ := exists_of_prepare prepared
    change Batch e config.force next files _ _ _ _ at batch
    have ended := batch.renderPerRow_onStreams out err
    rw [if_neg skipped] at ended
    refine ⟨last, final, out ++ reports.flatMap RowReport.stdout, ?_⟩
    simp only [prepared, Session.andThen_ok, render, mode]
    rw [ended, Session.andThen_error, id]

/-- What becomes of a run: it fails in one of these ways, or leaves nothing on standard error. -/
theorem cases_of_runWith_onStreams (e : Engine σ) (config : Config) (stdin : Stdin) (engine : σ)
    (files : FileTree) (out err : Bytes) :
    (∃ reports cause, RunFailure e config stdin (.onStreams engine files out err) reports cause) ∨
    ∃ next made out', runWith e config stdin (.onStreams engine files out err) =
      (.onStreams next made out' err, .ok ()) := by
  rw [runWith_eq]
  cases prepared : prepare e config stdin (.onStreams engine files out err) with
  | mk ready result =>
    obtain ⟨next, rfl⟩ := exists_of_prepare prepared
    cases result with
    | error cause => exact .inl ⟨[], cause, .unprepared prepared⟩
    | ok table =>
      rw [Session.andThen_ok, render]
      cases mode : RenderMode.ofOut e config.out with
      | single destination =>
        obtain ⟨last, made, out', same⟩ :=
          renderSingle_onStreams e config.force table destination next files out err
        cases ended : renderSingle e table destination config.force
            (.onStreams next files out err) with
        | mk last result =>
          rw [ended] at same
          cases result with
          | error cause => exact .inl ⟨[], cause, .single prepared mode ended⟩
          | ok => exact .inr ⟨_, _, _, by simpa [ended] using same⟩
      | perRow name =>
        cases ran : renderRows e config.force (.onStreams next files out err) 0 ⟨0, 0⟩
          table.records with
        | mk last result =>
          cases result with
          | error cause =>
            obtain ⟨before, record, after, reports, between, made, split, batch, failed⟩ :=
              exists_cut ran
            rw [Nat.zero_add] at failed
            exact .inl ⟨reports, cause, .cut prepared mode split batch failed⟩
          | ok tally =>
            obtain ⟨reports, last, final, batch⟩ := exists_batch ran
            by_cases none : RowReport.count .skipped reports = 0
            · have done := batch.renderPerRow_onStreams out err
              rw [if_pos none, RowReport.stderr_of_none_skipped none, List.append_nil] at done
              refine .inr ⟨last, final, out ++ reports.flatMap RowReport.stdout, ?_⟩
              rw [done, Session.andThen_ok]
            · exact .inl ⟨reports, _, .skipped prepared mode batch none⟩

end Runs

/-! ### The causes -/

theorem unprepared_of_prepare {config : Config} {stdin : Stdin} {s last : Session σ}
    {cause : RunError} (refused : prepare e config stdin s = (last, .error cause)) :
    cause.Unprepared := by
  have forgotten := forget_prepare e config stdin ⟨(s.engine, []), s.world⟩
  obtain ⟨ready, names, ⟨fault, unprepared, failed⟩ | ⟨table, template, -, -, done⟩⟩ :=
    cases_of_prepare e config stdin s.engine [] s.world
  · rw [failed] at forgotten
    cases refused.symm.trans forgotten
    exact unprepared
  · rw [done] at forgotten
    cases refused.symm.trans forgotten

theorem isConfig_of_renderSingle {table : Table} {d : Destination} {s last : Session σ}
    {cause : RunError} (ended : renderSingle e table d force s = (last, .error cause)) :
    cause.isConfig = false := by
  unfold renderSingle at ended
  split at ended
  next => cases ended; rfl
  next =>
    split at ended
    next => cases ended; rfl
    next =>
      obtain ⟨fault, rfl⟩ := exists_io_of_finish ended
      rfl

/-- A run never fails over its configuration. -/
theorem RunFailure.isConfig_eq_false {config : Config} {stdin : Stdin} {s : Session σ}
    {reports : List RowReport} {cause : RunError}
    (failed : RunFailure e config stdin s reports cause) : cause.isConfig = false := by
  cases failed with
  | unprepared refused => cases unprepared_of_prepare refused <;> rfl
  | single _ _ ended => exact isConfig_of_renderSingle ended
  | cut _ _ _ _ failed => cases failed <;> rfl
  | skipped => rfl

end FormLetter
