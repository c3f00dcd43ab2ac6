import FormLetter.Proofs.Render.Recorded
import FormLetter.Proofs.Render.Rows
import FormLetter.Proofs.Render.Steps

/-!
The order of a run. Sources are read and templates compiled before the first template is executed
and before anything is opened or written, so a run that fails on the way to that point has changed
nothing in the world.
-/
namespace FormLetter

variable {σ ε ε' α β : Type}

/-- The failures of reading sources and compiling templates. -/
inductive RunError.Unprepared : RunError → Prop where
  | readCsv (cause : InputError) : Unprepared (.readCsv cause)
  | readTemplate (cause : InputError) : Unprepared (.readTemplate cause)
  | parseTemplate (cause : RenderError) : Unprepared (.parseTemplate cause)
  | parseOutputTemplate (cause : RenderError) : Unprepared (.parseOutputTemplate cause)

/-- The table was read and loaded, and the content template was read. -/
structure SourcesRead (config : Config) (files : FileTree) (stdin : Stdin) (table : Table)
    (template : String) : Prop where
  table : ∃ csv, config.csv.resolve files stdin = .ok csv ∧
    Table.load csv.toList config.table = .ok table
  template : config.template.resolve files stdin = .ok template

/-- The templates of a mode were compiled, under the names of the list and in its order. -/
inductive TemplatesCompiled (e : Engine σ) (engine : σ) (template : String) :
    RenderMode → List String → σ → Prop where
  | single {destination : Destination} {ready : σ} :
      e.compile engine contentTemplate template = (ready, .ok ()) →
      TemplatesCompiled e engine template (.single destination) [contentTemplate] ready
  | perRow {name : String} {between ready : σ} :
      e.compile engine contentTemplate template = (between, .ok ()) →
      e.compile between outputTemplate name = (ready, .ok ()) →
      TemplatesCompiled e engine template (.perRow name) [contentTemplate, outputTemplate] ready

/-! ### Reading and compiling -/

theorem cases_of_readSources (config : Config) (files : FileTree) (stdin : Stdin) :
    (∃ cause, cause.Unprepared ∧ readSources config files stdin = .error cause) ∨
    ∃ table template, SourcesRead config files stdin table template ∧
      readSources config files stdin = .ok (table, template) := by
  unfold readSources
  split
  next cause _ => exact .inl ⟨_, .readCsv cause, rfl⟩
  next csv resolved =>
    split
    next cause _ => exact .inl ⟨_, .readCsv cause, rfl⟩
    next table loaded =>
      split
      next cause _ => exact .inl ⟨_, .readTemplate cause, rfl⟩
      next template read => exact .inr ⟨table, template, ⟨⟨csv, resolved, loaded⟩, read⟩, rfl⟩

theorem compile_recorded (e : Engine σ) (engine : σ) (calls : List Call) (name source : String) :
    e.recorded.compile (engine, calls) name source =
      (((e.compile engine name source).1, calls ++ [.compile name]),
        (e.compile engine name source).2) :=
  rfl

theorem cases_of_compileTemplates (e : Engine σ) (engine : σ) (calls : List Call)
    (template : String) (mode : RenderMode) :
    ∃ ready names,
      ((∃ cause, cause.Unprepared ∧
          compileTemplates e.recorded (engine, calls) template mode =
            ((ready, calls ++ names.map .compile), .error cause)) ∨
        TemplatesCompiled e engine template mode names ready ∧
          compileTemplates e.recorded (engine, calls) template mode =
            ((ready, calls ++ names.map .compile), .ok ())) := by
  rw [compileTemplates, compile_recorded]
  cases first : e.compile engine contentTemplate template with
  | mk between result =>
    cases result with
    | error cause => exact ⟨between, [contentTemplate], .inl ⟨_, .parseTemplate cause, rfl⟩⟩
    | ok =>
      cases mode with
      | single destination => exact ⟨between, [contentTemplate], .inr ⟨.single first, rfl⟩⟩
      | perRow name =>
        -- The name template is compiled by the engine that has the content template.
        simp only [compile_recorded, List.append_assoc]
        cases second : e.compile between outputTemplate name with
        | mk ready result =>
          refine ⟨ready, [contentTemplate, outputTemplate], ?_⟩
          cases result with
          | error cause => exact .inl ⟨_, .parseOutputTemplate cause, rfl⟩
          | ok => exact .inr ⟨.perRow first second, rfl⟩

/-- A run that is not prepared has only compiled, and one that is prepared has changed nothing
but the engine either. -/
theorem cases_of_prepare (e : Engine σ) (config : Config) (stdin : Stdin) (engine : σ)
    (calls : List Call) (world : World) :
    ∃ ready names,
      ((∃ cause, cause.Unprepared ∧
          prepare e.recorded config stdin ⟨(engine, calls), world⟩ =
            (⟨(ready, calls ++ names.map .compile), world⟩, .error cause)) ∨
        ∃ table template, SourcesRead config world.files stdin table template ∧
          TemplatesCompiled e engine template (RenderMode.ofOut e config.out) names ready ∧
          prepare e.recorded config stdin ⟨(engine, calls), world⟩ =
            (⟨(ready, calls ++ names.map .compile), world⟩, .ok table)) := by
  unfold prepare
  obtain ⟨cause, unprepared, failed⟩ | ⟨table, template, sources, read⟩ :=
    cases_of_readSources config world.files stdin
  · exact ⟨engine, [], .inl ⟨cause, unprepared, by simp [failed]⟩⟩
  · have mode : RenderMode.ofOut e.recorded config.out = RenderMode.ofOut e config.out := rfl
    simp only [read, mode]
    obtain ⟨ready, names, ⟨cause, unprepared, failed⟩ | ⟨compiled, done⟩⟩ :=
      cases_of_compileTemplates e engine calls template (RenderMode.ofOut e config.out)
    · exact ⟨ready, names, .inl ⟨cause, unprepared, by rw [failed]; rfl⟩⟩
    · exact ⟨ready, names, .inr ⟨table, template, sources, compiled, by rw [done]; rfl⟩⟩

/-! ### Rendering only executes -/

/-- Executions as calls. -/
def executions (executed : List (String × Json)) : List Call :=
  executed.map fun (name, context) => .execute name context

/-- Whatever becomes of the step, all it asks of the engine is to execute templates. -/
def Executing (f : Session (σ × List Call) → Session (σ × List Call) × Except ε α) : Prop :=
  ∀ s, ∃ executed, (f s).1.engine.2 = s.engine.2 ++ executions executed

namespace Executing

theorem of_idle {f : Session (σ × List Call) → Session (σ × List Call) × Except ε α}
    (idle : ∀ s, (f s).1.engine = s.engine) : Executing f := by
  intro s
  exact ⟨[], by rw [idle]; exact (List.append_nil _).symm⟩

protected theorem andThen {f : Session (σ × List Call) → Session (σ × List Call) × Except ε α}
    (first : Executing f) (failed : ε → ε')
    {next : Session (σ × List Call) → α → Session (σ × List Call) × Except ε' β}
    (second : ∀ a, Executing fun s => next s a) :
    Executing fun s => Session.andThen (f s) failed next := by
  intro s
  obtain ⟨before, called⟩ := first s
  dsimp only
  generalize f s = ended at called
  obtain ⟨t, result⟩ := ended
  cases result with
  | error cause => exact ⟨before, called⟩
  | ok a =>
    obtain ⟨behind, more⟩ := second a t
    refine ⟨before ++ behind, more.trans ?_⟩
    rw [called, List.append_assoc, executions, executions, executions, List.map_append]

theorem fill (e : Engine σ) (context : Json) (sink : Sink) :
    Executing fun s => Session.fill e.recorded s context sink :=
  fun _ => ⟨[(contentTemplate, context)], rfl⟩

theorem finish (sink : Sink) (announcement : String) :
    Executing fun s : Session (σ × List Call) => s.finish sink announcement := by
  refine of_idle fun s => ?_
  unfold Session.finish
  split <;> rfl

theorem nameStep (e : Engine σ) (row : Nat) (record : Record) :
    Executing fun s => FormLetter.nameStep e.recorded row record s := by
  intro s
  refine ⟨[(outputTemplate, rowContext record)], ?_⟩
  obtain ⟨⟨engine, calls⟩, world⟩ := s
  simp only [FormLetter.nameStep, executeToString_recorded]
  cases (e.executeToString engine outputTemplate (rowContext record)).2 <;> rfl

theorem openStep (d : Destination) (force : Bool) :
    Executing fun s : Session (σ × List Call) => FormLetter.openStep d force s :=
  of_idle fun _ => rfl

theorem skipRow (name : String) (cause : SinkError) :
    Executing fun s : Session (σ × List Call) => FormLetter.skipRow s name cause := by
  refine of_idle fun s => ?_
  unfold FormLetter.skipRow
  dsimp only
  split <;> rfl

theorem renderRow (e : Engine σ) (force : Bool) (row : Nat) (record : Record) :
    Executing fun s => FormLetter.renderRow e.recorded force s row record := by
  simp only [renderRow_eq, writeRow_eq]
  refine (nameStep e row record).andThen id fun name => ?_
  refine (openStep (.parse name) force).andThen id fun opened => ?_
  cases opened with
  | error cause => exact skipRow name cause
  | ok sink =>
    refine (fill e (rowContext record) sink).andThen _ fun _ => ?_
    exact (finish sink (name ++ "\n")).andThen id fun _ => of_idle fun _ => rfl

theorem renderRows (e : Engine σ) (force : Bool) (row : Nat) (tally : Tally)
    (records : List Record) :
    Executing fun s => FormLetter.renderRows e.recorded force s row tally records := by
  induction records generalizing row tally with
  | nil => exact of_idle fun _ => rfl
  | cons record rest ih =>
    simp only [renderRows_cons_eq]
    exact (renderRow e force row record).andThen id fun ending =>
      ih (row + 1) (tally.count ending)

theorem renderPerRow (e : Engine σ) (records : List Record) (force : Bool) :
    Executing fun s => FormLetter.renderPerRow e.recorded records force s := by
  simp only [renderPerRow_eq]
  exact (renderRows e force 0 ⟨0, 0⟩ records).andThen id fun _ => of_idle fun _ => rfl

theorem renderSingle (e : Engine σ) (table : Table) (d : Destination) (force : Bool) :
    Executing fun s => FormLetter.renderSingle e.recorded table d force s := by
  simp only [renderSingle_eq]
  refine (openStep d force).andThen id fun opened => ?_
  cases opened with
  | error cause => exact of_idle fun _ => rfl
  | ok sink =>
    exact (fill e (singleContext table) sink).andThen _ fun _ => finish sink (savedMessage d)

theorem render (e : Engine σ) (config : Config) (table : Table) :
    Executing fun s => FormLetter.render e.recorded config table s := by
  unfold FormLetter.render
  split
  next destination _ => exact renderSingle e table destination config.force
  next =>
    exact (renderPerRow e table.records config.force).andThen id fun _ => of_idle fun _ => rfl

end Executing

/-! ### Rendering fails in other ways -/

theorem not_unprepared_of_endsBatch {cause : RunError} (ends : cause.EndsBatch) :
    ¬ cause.Unprepared := by
  intro unprepared
  cases unprepared <;> cases ends

theorem not_unprepared_of_renderSingle {e : Engine σ} {table : Table} {d : Destination}
    {force : Bool} {s last : Session σ} {cause : RunError}
    (ended : renderSingle e table d force s = (last, .error cause)) : ¬ cause.Unprepared := by
  intro unprepared
  unfold renderSingle at ended
  split at ended
  next =>
    cases ended
    cases unprepared
  next =>
    split at ended
    next =>
      cases ended
      cases unprepared
    next =>
      obtain ⟨fault, rfl⟩ := exists_io_of_finish ended
      cases unprepared

theorem not_unprepared_of_renderPerRow {e : Engine σ} {records : List Record} {force : Bool}
    {s last : Session σ} {cause : RunError}
    (ended : renderPerRow e records force s = (last, .error cause)) : ¬ cause.Unprepared := by
  cases ran : renderRows e force s 0 ⟨0, 0⟩ records with
  | mk final result =>
    cases result with
    | error fault =>
      rw [renderPerRow_eq_error ran] at ended
      cases ended
      exact not_unprepared_of_endsBatch (endsBatch_of_renderRows ran)
    | ok tally =>
      rw [renderPerRow_eq_verdict ran, Tally.verdict] at ended
      intro unprepared
      split at ended
      next => cases ended
      next =>
        cases ended
        cases unprepared

theorem not_unprepared_of_render {e : Engine σ} {config : Config} {table : Table}
    {s last : Session σ} {cause : RunError}
    (ended : render e config table s = (last, .error cause)) : ¬ cause.Unprepared := by
  unfold render at ended
  split at ended
  next => exact not_unprepared_of_renderSingle ended
  next =>
    cases ran : renderPerRow e table.records config.force s with
    | mk final result =>
      rw [ran] at ended
      cases result with
      | error fault =>
        cases ended
        exact not_unprepared_of_renderPerRow ran
      | ok => cases ended

/-! ### Whole runs -/

theorem forget_renderSingle (e : Engine σ) (table : Table) (d : Destination) (force : Bool)
    (s : Session (σ × List Call)) :
    renderSingle e table d force s.forget =
      ((renderSingle e.recorded table d force s).1.forget,
        (renderSingle e.recorded table d force s).2) := by
  unfold renderSingle
  have world : s.forget.world = s.world := rfl
  rw [world]
  cases s.world.openSink d force with
  | mk opened result =>
    cases result with
    | error cause => rfl
    | ok sink =>
      have filled := forget_fill e { s with world := opened } (singleContext table) sink
      simp only [Session.forget] at filled ⊢
      rw [filled]
      cases Session.fill e.recorded { s with world := opened } (singleContext table) sink with
      | mk t result =>
        cases result with
        | error cause => rfl
        | ok => exact forget_finish t sink (savedMessage d)

theorem forget_render (e : Engine σ) (config : Config) (table : Table)
    (s : Session (σ × List Call)) :
    render e config table s.forget =
      ((render e.recorded config table s).1.forget, (render e.recorded config table s).2) := by
  have mode : RenderMode.ofOut e.recorded config.out = RenderMode.ofOut e config.out := rfl
  unfold render
  rw [mode]
  cases RenderMode.ofOut e config.out with
  | single destination => exact forget_renderSingle e table destination config.force s
  | perRow name =>
    dsimp only
    rw [forget_renderPerRow]
    cases renderPerRow e.recorded table.records config.force s with
    | mk last result => cases result <;> rfl

theorem forget_prepare (e : Engine σ) (config : Config) (stdin : Stdin)
    (s : Session (σ × List Call)) :
    prepare e config stdin s.forget =
      ((prepare e.recorded config stdin s).1.forget, (prepare e.recorded config stdin s).2) := by
  have mode : RenderMode.ofOut e.recorded config.out = RenderMode.ofOut e config.out := rfl
  have files : s.forget.world.files = s.world.files := rfl
  unfold prepare
  rw [mode, files]
  cases readSources config s.world.files stdin with
  | error cause => rfl
  | ok read =>
    obtain ⟨table, template⟩ := read
    obtain ⟨⟨engine, calls⟩, world⟩ := s
    simp only [Session.forget, compileTemplates, compile_recorded]
    cases e.compile engine contentTemplate template with
    | mk ready result =>
      cases result with
      | error cause => rfl
      | ok => cases RenderMode.ofOut e config.out <;> rfl

/-- Recording the calls changes nothing about a run. -/
theorem forget_runWith (e : Engine σ) (config : Config) (stdin : Stdin)
    (s : Session (σ × List Call)) :
    runWith e config stdin s.forget =
      ((runWith e.recorded config stdin s).1.forget, (runWith e.recorded config stdin s).2) := by
  rw [runWith_eq, runWith_eq, forget_prepare]
  cases prepare e.recorded config stdin s with
  | mk ready result =>
    cases result with
    | error cause => rfl
    | ok table => exact forget_render e config table ready

/-- What a run has done by the time it fails to be prepared, or else is prepared and renders. -/
theorem cases_of_runWith (e : Engine σ) (config : Config) (stdin : Stdin) (engine : σ)
    (calls : List Call) (world : World) :
    ∃ ready names,
      ((∃ cause, cause.Unprepared ∧
          runWith e.recorded config stdin ⟨(engine, calls), world⟩ =
            (⟨(ready, calls ++ names.map .compile), world⟩, .error cause)) ∨
        ∃ table template, SourcesRead config world.files stdin table template ∧
          TemplatesCompiled e engine template (RenderMode.ofOut e config.out) names ready ∧
          runWith e.recorded config stdin ⟨(engine, calls), world⟩ =
            render e.recorded config table ⟨(ready, calls ++ names.map .compile), world⟩) := by
  rw [runWith_eq]
  obtain ⟨ready, names, ⟨cause, unprepared, failed⟩ | ⟨table, template, sources, compiled, done⟩⟩ :=
    cases_of_prepare e config stdin engine calls world
  · exact ⟨ready, names, .inl ⟨cause, unprepared, by rw [failed]; rfl⟩⟩
  · exact ⟨ready, names, .inr ⟨table, template, sources, compiled, by rw [done]; rfl⟩⟩

end FormLetter
