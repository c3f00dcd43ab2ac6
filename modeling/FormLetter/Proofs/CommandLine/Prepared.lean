import FormLetter.CommandLine.Program
import FormLetter.Proofs.Render.Prepared

/-!
Nothing is written before everything has been read and compiled. A run that fails on the way to
its first template has changed nothing, and a program that does not even get to a run has changed
nothing either but for its report.
-/
namespace FormLetter.CommandLine

variable {σ : Type}

/-! ### The program with any engine -/

/-- Something done to the world alone. -/
def aside (act : World → World × Nat) (s : Session σ) : Session σ × Nat :=
  ({ s with world := (act s.world).1 }, (act s.world).2)

/-- The exit status of a run, after its failure has been reported. -/
def concludeOn (color : Bool) : Session σ × Except RunError Unit → Session σ × Nat
  | (s, .ok ()) => (s, 0)
  | (s, .error cause) => aside (fun w => (reportError color cause w, cause.exitCode)) s

/-- Validates flags and runs what they ask for with an engine. -/
def runFlagsOn (e : Engine σ) (flags : Flags) (stdin : Stdin) (s : Session σ) :
    Session σ × Except RunError Unit :=
  match Config.ofFlags s.world.files flags with
  | .error cause => (s, .error cause)
  | .ok config => runWith e config stdin s

/-- The program with an engine. -/
def runProgramOn (e : Engine σ) (argv : List String) (stdin : Stdin) (color : Bool)
    (s : Session σ) : Session σ × Nat :=
  match argv with
  | [] | [_] => aside (answer (helpText programName)) s
  | path :: arguments =>
    match readFlags arguments with
    | .ok flags => concludeOn color (runFlagsOn e flags stdin s)
    | .error cause =>
      let program := calledName path
      match cause with
      | .help | .version => aside (answer (cause.message program)) s
      | cause => aside (fun w => (report color (cause.report program) w, 1)) s

theorem conclude_eq (color : Bool) (ran : Session σ × Except RunError Unit) :
    conclude color (ran.1.world, ran.2) =
      ((concludeOn color ran).1.world, (concludeOn color ran).2) := by
  obtain ⟨s, result⟩ := ran
  cases result <;> rfl

theorem runFlags_recorded (flags : Flags) (stdin : Stdin) (w : World) :
    let ran := runFlagsOn Template.engine.recorded flags stdin ⟨(Template.emptyStore, []), w⟩
    runFlags flags stdin w = (ran.1.world, ran.2) := by
  unfold runFlags runFlagsOn
  dsimp only
  cases Config.ofFlags w.files flags with
  | error cause => rfl
  | ok config =>
    have forgotten := forget_runWith Template.engine config stdin ⟨(Template.emptyStore, []), w⟩
    rw [Session.forget] at forgotten
    simp only [forgotten, Session.forget]

/-- The program is the one with the template engine, and recording the calls of the engine changes
nothing about it. -/
theorem runProgram_recorded (argv : List String) (stdin : Stdin) (color : Bool) (w : World) :
    let ran := runProgramOn Template.engine.recorded argv stdin color ⟨(Template.emptyStore, []), w⟩
    runProgram argv stdin color w = (ran.1.world, ran.2) := by
  match argv with
  | [] => rfl
  | [_] => rfl
  | path :: first :: rest =>
    simp only [runProgram, runProgramOn]
    cases readFlags (first :: rest) with
    | ok flags =>
      exact (congrArg (conclude color) (runFlags_recorded flags stdin w)).trans
        (conclude_eq color _)
    | error cause => cases cause <;> rfl

/-! ### Programs that get to no run -/

/-- The line that a report is. -/
def reportLine (color : Bool) (message : String) : String :=
  reportName color ++ ": " ++ message ++ "\n"

/-- The lines that report the failure of a run. -/
def errorLines (color : Bool) (cause : RunError) : List String :=
  reportLine color cause.message :: if cause.isConfig then [usageHint] else []

/-- The arguments give no configuration, and these lines report why. -/
inductive Unconfigured (files : FileTree) (color : Bool) : List String → List String → Prop where
  | flags {path : String} {arguments : List String} {cause : UsageError} :
      arguments ≠ [] → readFlags arguments = .error cause → cause ≠ .help → cause ≠ .version →
      Unconfigured files color (path :: arguments)
        [reportLine color (cause.report (calledName path))]
  | config {path : String} {arguments : List String} {flags : Flags} {cause : RunError} :
      arguments ≠ [] → readFlags arguments = .ok flags → Config.ofFlags files flags = .error cause →
      Unconfigured files color (path :: arguments) (errorLines color cause)

/-- A stream that some lines were told to. -/
def told (stderr : Stream) (lines : List String) : Stream :=
  lines.foldl (fun stderr line => (stderr.write (bytesOf line)).1) stderr

theorem reportError_eq (color : Bool) (cause : RunError) (w : World) :
    reportError color cause w = { w with stderr := told w.stderr (errorLines color cause) } := by
  unfold reportError errorLines
  cases cause.isConfig <;> rfl

/-- All that is left of a program without a configuration is its report. -/
theorem runProgramOn_of_unconfigured (e : Engine σ) {argv lines : List String} (stdin : Stdin)
    {color : Bool} {s : Session σ} (unconfigured : Unconfigured s.world.files color argv lines) :
    runProgramOn e argv stdin color s =
      ({ s with world := { s.world with stderr := told s.world.stderr lines } }, 1) := by
  cases unconfigured with
  | @flags path arguments cause given refused noHelp noVersion =>
    obtain ⟨first, rest, rfl⟩ := List.exists_cons_of_ne_nil given
    simp only [runProgramOn, refused]
    cases cause with
    | help => contradiction
    | version => contradiction
    | _ => rfl
  | @config path arguments flags cause given read refused =>
    obtain ⟨first, rest, rfl⟩ := List.exists_cons_of_ne_nil given
    simp only [runProgramOn, read, runFlagsOn, refused, concludeOn, aside, reportError_eq,
      RunError.exitCode]

/-! ### The order of a run -/

/-- A run that fails to read or to compile has changed nothing and executed nothing, and every
other run has read and compiled everything by the time it starts to render, when nothing has
changed yet either. A program that fails over its flags or its configuration only reports that. -/
theorem prepared_before_written (e : Engine σ) (config : Config) (stdin : Stdin) (engine : σ)
    (calls : List Call) (world : World) :
    let ran := runWith e.recorded config stdin ⟨(engine, calls), world⟩
    runWith e config stdin ⟨engine, world⟩ = (ran.1.forget, ran.2) ∧
    (∀ cause, cause.Unprepared → ran.2 = .error cause →
      ran.1.world = world ∧ ∃ names : List String, ran.1.engine.2 = calls ++ names.map .compile) ∧
    ((¬ ∃ cause, cause.Unprepared ∧ ran.2 = .error cause) →
      ∃ table template ready names,
        SourcesRead config world.files stdin table template ∧
        TemplatesCompiled e engine template (RenderMode.ofOut e config.out) names ready ∧
        ran = render e.recorded config table ⟨(ready, calls ++ names.map .compile), world⟩ ∧
        ∃ executed, ran.1.engine.2 = calls ++ names.map .compile ++ executions executed) ∧
    ∀ argv color,
      let program :=
        runProgramOn Template.engine.recorded argv stdin color ⟨(Template.emptyStore, []), world⟩
      runProgram argv stdin color world = (program.1.world, program.2) ∧
      ∀ lines, Unconfigured world.files color argv lines →
        program = (⟨(Template.emptyStore, []),
          { world with stderr := told world.stderr lines }⟩, 1) := by
  intro ran
  refine ⟨forget_runWith e config stdin ⟨(engine, calls), world⟩, ?_, ?_, ?_⟩
  · intro cause unprepared failed
    obtain ⟨ready, names, ⟨_, _, ended⟩ | ⟨table, _, _, _, ended⟩⟩ :=
      cases_of_runWith e config stdin engine calls world
    · have run : ran = _ := ended
      exact ⟨by rw [run], names, by rw [run]⟩
    · -- A run that got to rendering does not fail this way any more.
      have run : render e.recorded config table ⟨(ready, calls ++ names.map .compile), world⟩ =
          (ran.1, .error cause) := by
        rw [← failed]
        exact ended.symm
      exact absurd unprepared (not_unprepared_of_render run)
  · intro prepared
    obtain ⟨ready, names, ⟨cause, unprepared, ended⟩ | ⟨table, template, sources, compiled, ended⟩⟩ :=
      cases_of_runWith e config stdin engine calls world
    · exact absurd ⟨cause, unprepared, congrArg Prod.snd ended⟩ prepared
    · obtain ⟨executed, asked⟩ := Executing.render e config table
        ⟨(ready, calls ++ names.map .compile), world⟩
      exact ⟨table, template, ready, names, sources, compiled, ended, executed, by
        rw [← asked]; exact congrArg (·.1.engine.2) ended⟩
  · intro argv color program
    exact ⟨runProgram_recorded argv stdin color world, fun lines unconfigured =>
      runProgramOn_of_unconfigured Template.engine.recorded stdin unconfigured⟩

theorem prepared_before_written_empty_table :
    let e := Engine.constant [] []
    let world : World := ⟨⟨[], []⟩, .unlimited, .unlimited⟩
    let start : Session (Unit × List Call) := ⟨((), []), world⟩
    let unread : Config := ⟨.literal "", .literal "", "a/b", ⟨',', true, "c"⟩, false⟩
    let config : Config := ⟨.literal "n", .literal "", "a/b", ⟨',', true, "c"⟩, false⟩
    (runWith e.recorded unread (.ok []) start).1.world = world ∧
    (∃ (table : Table) (names : List String),
      (∃ template, SourcesRead config world.files (.ok []) table template) ∧
      runWith e.recorded config (.ok []) start =
        render e.recorded config table ⟨((), names.map .compile), world⟩) ∧
    runProgram ["csvplate", "-f"] (.ok []) false world =
      ({ world with stderr := told .unlimited (errorLines false (.config .missingInput)) }, 1) := by
  intro e world start unread config
  refine ⟨?_, ?_, ?_⟩
  · have failed : (runWith e.recorded unread (.ok []) start).2 = .error (.readCsv .emptySource) :=
      rfl
    exact ((prepared_before_written e unread (.ok []) () [] world).2.1 _ (.readCsv _) failed).1
  · have done : (runWith e.recorded config (.ok []) start).2.isOk = true := by decide +kernel
    obtain ⟨table, template, ⟨⟩, names, sources, -, ran, -⟩ :=
      (prepared_before_written e config (.ok []) () [] world).2.2.1 (by
        rintro ⟨cause, -, failed⟩
        exact Bool.noConfusion (failed ▸ done))
    exact ⟨table, names, ⟨template, sources⟩, ran⟩
  · have unconfigured : Unconfigured world.files false ["csvplate", "-f"]
        (errorLines false (.config .missingInput)) := .config (by decide) rfl rfl
    obtain ⟨same, reported⟩ :=
      (prepared_before_written e unread (.ok []) () [] world).2.2.2 ["csvplate", "-f"] false
    rw [same, reported _ unconfigured]

end FormLetter.CommandLine
