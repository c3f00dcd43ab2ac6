import FormLetter.CommandLine.Program
import FormLetter.Proofs.Render.Steps

/-!
How often standard input is read. The run is told once more on a standard input that is used up by
being read to its end and may give something else the next time; as long as not both sources are
standard input, it is read at most once, and what is read then is all that matters.
-/
namespace FormLetter

variable {σ : Type}

/-- Standard input: what each reading to its end gives, and how many there have been. -/
structure Inlet where
  answers : Nat → Stdin
  readings : Nat

namespace Inlet

def read (inlet : Inlet) : Stdin × Inlet :=
  (inlet.answers inlet.readings, { inlet with readings := inlet.readings + 1 })

/-- What the next reading gives. -/
def next (inlet : Inlet) : Stdin :=
  inlet.answers inlet.readings

end Inlet

/-! ### Runs that read -/

/-- The text of a source. -/
def Source.resolveFrom (files : FileTree) (inlet : Inlet) :
    Source → Except InputError String × Inlet
  | .literal content => (.ok content, inlet)
  | .stdin =>
    match inlet.read with
    | (.ok bytes, inlet) => (.ok (Text.decodeText bytes), inlet)
    | (.error fault, inlet) => (.error (.stdinFailed fault), inlet)
  | .path p =>
    match files.read p with
    | .ok bytes => (.ok (Text.decodeText bytes), inlet)
    | .error fault => (.error (.sourceUnavailable p fault), inlet)

/-- Reads the table, and then the text of the content template. -/
def readSourcesFrom (config : Config) (files : FileTree) (inlet : Inlet) :
    Except RunError (Table × String) × Inlet :=
  match config.csv.resolveFrom files inlet with
  | (.error cause, inlet) => (.error (.readCsv cause), inlet)
  | (.ok csv, inlet) =>
    match Table.load csv.toList config.table with
    | .error cause => (.error (.readCsv cause), inlet)
    | .ok table =>
      match config.template.resolveFrom files inlet with
      | (.error cause, inlet) => (.error (.readTemplate cause), inlet)
      | (.ok template, inlet) => (.ok (table, template), inlet)

/-- What a run makes of what it has read. -/
def runRead (e : Engine σ) (config : Config) (s : Session σ) :
    Except RunError (Table × String) → Session σ × Except RunError Unit
  | .error cause => (s, .error cause)
  | .ok (table, template) =>
    let (engine, compiled) := compileTemplates e s.engine template (RenderMode.ofOut e config.out)
    Session.andThen ({ s with engine := engine }, compiled) id fun s _ => render e config table s

def runWithFrom (e : Engine σ) (config : Config) (s : Session σ) (inlet : Inlet) :
    (Session σ × Except RunError Unit) × Inlet :=
  let (found, inlet) := readSourcesFrom config s.world.files inlet
  (runRead e config s found, inlet)

namespace CommandLine

def runFlagsFrom (flags : Flags) (w : World) (inlet : Inlet) :
    (World × Except RunError Unit) × Inlet :=
  match Config.ofFlags w.files flags with
  | .error cause => ((w, .error cause), inlet)
  | .ok config =>
    let ((s, result), inlet) := runWithFrom Template.engine config ⟨Template.emptyStore, w⟩ inlet
    ((s.world, result), inlet)

def runProgramFrom (argv : List String) (color : Bool) (w : World) (inlet : Inlet) :
    (World × Nat) × Inlet :=
  match argv with
  | [] | [_] => (answer (helpText programName) w, inlet)
  | path :: arguments =>
    match readFlags arguments with
    | .ok flags =>
      let (ran, inlet) := runFlagsFrom flags w inlet
      (conclude color ran, inlet)
    | .error cause =>
      let program := calledName path
      match cause with
      | .help | .version => (answer (cause.message program) w, inlet)
      | cause => ((report color (cause.report program) w, 1), inlet)

end CommandLine

/-! ### The same runs -/

theorem runWith_eq_runRead (e : Engine σ) (config : Config) (stdin : Stdin) (s : Session σ) :
    runWith e config stdin s = runRead e config s (readSources config s.world.files stdin) := by
  rw [runWith_eq, prepare]
  cases readSources config s.world.files stdin with
  | error cause => rfl
  | ok found =>
    obtain ⟨table, template⟩ := found
    dsimp only [runRead]
    cases compileTemplates e s.engine template (RenderMode.ofOut e config.out) with
    | mk engine compiled => cases compiled <;> rfl

/-- Only standard input is read. -/
theorem Source.resolveFrom_eq (source : Source) (files : FileTree) (inlet : Inlet) :
    source.resolveFrom files inlet =
      (source.resolve files inlet.next, if source.isStdin then inlet.read.2 else inlet) := by
  cases source with
  | literal content => rfl
  | stdin =>
    simp only [resolveFrom, resolve, Inlet.next, Inlet.read]
    cases inlet.answers inlet.readings <;> rfl
  | path p =>
    simp only [resolveFrom, resolve]
    cases files.read p <;> rfl

theorem Source.resolve_eq_of_not_isStdin {source : Source} (elsewhere : ¬ source.isStdin)
    (files : FileTree) (stdin stdin' : Stdin) :
    source.resolve files stdin = source.resolve files stdin' := by
  cases source with
  | literal content => rfl
  | stdin => exact absurd rfl elsewhere
  | path p => rfl

section

variable {config : Config} {inlet : Inlet}

/-- What is read first is all that matters, unless there is a second reading that gives something
else. -/
theorem fst_readSourcesFrom
    (same : config.csv.isStdin → config.template.isStdin → inlet.read.2.next = inlet.next)
    (files : FileTree) :
    (readSourcesFrom config files inlet).1 = readSources config files inlet.next := by
  have template : config.template.resolve files
      (if config.csv.isStdin then inlet.read.2 else inlet).next =
        config.template.resolve files inlet.next := by
    by_cases csv : config.csv.isStdin
    · rw [if_pos csv]
      by_cases both : config.template.isStdin
      · rw [same csv both]
      · exact Source.resolve_eq_of_not_isStdin both files _ _
    · rw [if_neg csv]
  simp only [readSourcesFrom, readSources, Source.resolveFrom_eq]
  cases config.csv.resolve files inlet.next with
  | error cause => rfl
  | ok csv =>
    dsimp only
    cases Table.load csv.toList config.table with
    | error cause => rfl
    | ok table =>
      dsimp only
      rw [template]
      cases config.template.resolve files inlet.next <;> rfl

theorem readings_readSourcesFrom_le (apart : ¬ (config.csv.isStdin ∧ config.template.isStdin))
    (files : FileTree) : (readSourcesFrom config files inlet).2.readings ≤ inlet.readings + 1 := by
  have first : (if config.csv.isStdin then inlet.read.2 else inlet).readings ≤
      inlet.readings + 1 := by
    split
    · exact Nat.le_refl _
    · exact Nat.le_succ _
  simp only [readSourcesFrom, Source.resolveFrom_eq]
  cases config.csv.resolve files inlet.next with
  | error cause => exact first
  | ok csv =>
    dsimp only
    cases Table.load csv.toList config.table with
    | error cause => exact first
    | ok table =>
      dsimp only
      -- Either source may have been standard input, but not both.
      generalize config.template.resolve files _ = template
      by_cases second : config.template.isStdin
      · have elsewhere : ¬ config.csv.isStdin := fun csv => apart ⟨csv, second⟩
        rw [if_pos second, if_neg elsewhere]
        cases template <;> exact Nat.le_refl _
      · rw [if_neg second]
        cases template <;> exact first

theorem runWithFrom_of_apart (apart : ¬ (config.csv.isStdin ∧ config.template.isStdin))
    (e : Engine σ) (s : Session σ) (inlet : Inlet) :
    (runWithFrom e config s inlet).1 = runWith e config inlet.next s ∧
      (runWithFrom e config s inlet).2.readings ≤ inlet.readings + 1 := by
  constructor
  · rw [runWith_eq_runRead]
    exact congrArg (runRead e config s)
      (fst_readSourcesFrom (fun csv template => absurd ⟨csv, template⟩ apart) s.world.files)
  · exact readings_readSourcesFrom_le apart s.world.files

/-- On a standard input that gives the same every time, reading is what it always was. -/
theorem runWithFrom_of_constant (e : Engine σ) (config : Config) (s : Session σ) {stdin : Stdin}
    (constant : ∀ n, inlet.answers n = stdin) :
    (runWithFrom e config s inlet).1 = runWith e config stdin s := by
  have first : inlet.next = stdin := constant _
  have second : inlet.read.2.next = stdin := constant _
  rw [runWith_eq_runRead, ← first]
  exact congrArg (runRead e config s)
    (fst_readSourcesFrom (fun _ _ => second.trans first.symm) s.world.files)

end

/-- Two sources that are both standard input read it twice. -/
example :
    let config : Config := ⟨.stdin, .stdin, "", ⟨',', false, "c"⟩, false⟩
    (readSourcesFrom config ⟨[], []⟩ ⟨fun _ => .ok [97], 0⟩).2.readings = 2 := by
  decide +kernel

end FormLetter
