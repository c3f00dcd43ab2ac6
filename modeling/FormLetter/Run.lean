import FormLetter.CommandLine.Config
import FormLetter.Render.Output

/-!
One whole run. Sources are read and templates compiled before anything is written.
-/
namespace FormLetter

variable {σ : Type}

/-- What a run has read: the table, and the text of the content template. -/
def readSources (config : Config) (files : FileTree) (stdin : Stdin) :
    Except RunError (Table × String) :=
  match config.csv.resolve files stdin with
  | .error cause => .error (.readCsv cause)
  | .ok csv =>
    match Table.load csv.toList config.table with
    | .error cause => .error (.readCsv cause)
    | .ok table =>
      match config.template.resolve files stdin with
      | .error cause => .error (.readTemplate cause)
      | .ok template => .ok (table, template)

/-- Compiles the content template, and the name template if there is one. -/
def compileTemplates (e : Engine σ) (s : σ) (template : String) (mode : RenderMode) :
    σ × Except RunError Unit :=
  match e.compile s contentTemplate template with
  | (s, .error cause) => (s, .error (.parseTemplate cause))
  | (s, .ok ()) =>
    match mode with
    | .single _ => (s, .ok ())
    | .perRow nameTemplate =>
      let (s, compiled) := e.compile s outputTemplate nameTemplate
      (s, compiled.mapError .parseOutputTemplate)

/-- Runs a configuration with an engine. -/
def runWith (e : Engine σ) (config : Config) (stdin : Stdin) (s : Session σ) :
    Session σ × Except RunError Unit :=
  match readSources config s.world.files stdin with
  | .error err => (s, .error err)
  | .ok (table, template) =>
    let mode := RenderMode.ofOut e config.out
    match compileTemplates e s.engine template mode with
    | (engine, .error err) => ({ s with engine := engine }, .error err)
    | (engine, .ok ()) =>
      let s := { s with engine := engine }
      match mode with
      | .single destination => renderSingle e table destination config.force s
      | .perRow _ =>
        let (s, result) := renderPerRow e table.records config.force s
        (s, result.map fun _ => ())

end FormLetter
