import FormLetter.Input.Error
import FormLetter.Output.Destination
import FormLetter.Template.Error

/-!
Every way a run can fail. The message of each error names the step that failed.
-/
namespace FormLetter

/-- Flags that make no configuration. -/
inductive ConfigError where
  | missingInput
  | stdinConflict
  | invalidSeparator (value : String)
  | unsupportedSeparator (c : Char)
  | emptyCounter
  deriving DecidableEq, Repr

def ConfigError.message : ConfigError → String
  | .missingInput => "one of --csv or --template is required"
  | .stdinConflict => "--csv and --template cannot both read from stdin"
  | .invalidSeparator value =>
    s!"--csv-sep must be a single character, got {Text.Quoted.ofString value}"
  | .unsupportedSeparator c =>
    s!"--csv-sep {Text.Quoted.ofChar c} is not supported; " ++
      "use a character other than a quote or line break"
  | .emptyCounter => "--counter must not be empty"

inductive RunError where
  | config (cause : ConfigError)
  | readCsv (cause : InputError)
  | readTemplate (cause : InputError)
  | parseTemplate (cause : RenderError)
  | parseOutputTemplate (cause : RenderError)
  | executeTemplate (cause : RenderError)
  | destination (cause : SinkError)
  | renderOutputName (row : Nat) (cause : RenderError)
  | emptyOutputName (row : Nat)
  /-- The content of the output of that name. -/
  | renderContent (name : String) (cause : RenderError)
  /-- That many destinations of a batch could not be opened. -/
  | filesNotWritten (count : Nat)
  | io (cause : IoFault)
  deriving DecidableEq, Repr

namespace RunError

def message : RunError → String
  | .config cause => cause.message
  | .readCsv cause => s!"read csv: {cause.message}"
  | .readTemplate cause => s!"read template: {cause.message}"
  | .parseTemplate cause => s!"parse template: {cause.message}"
  | .parseOutputTemplate cause => s!"parse output template: {cause.message}"
  | .executeTemplate cause => s!"execute template: {cause.message}"
  | .destination cause => cause.message
  | .renderOutputName row cause =>
    s!"render output name for row {Decimal.ofNat row}: {cause.message}"
  | .emptyOutputName row => s!"rendered output name for row {Decimal.ofNat row} is empty"
  | .renderContent name cause => s!"render template for {name}: {cause.message}"
  | .filesNotWritten count => s!"{Decimal.ofNat count} file(s) not written"
  | .io cause => s!"write output: {cause.message}"

/-- The messages of the causes behind the error, nearest first. -/
def causes : RunError → List String
  | .config _ | .emptyOutputName _ | .filesNotWritten _ => []
  | .readCsv cause | .readTemplate cause => cause.message :: cause.causes
  | .parseTemplate cause | .parseOutputTemplate cause | .executeTemplate cause
  | .renderOutputName _ cause | .renderContent _ cause => cause.message :: cause.causes
  | .destination cause => cause.causes
  | .io cause => [cause.message]

/-- The process status of a failed run. -/
def exitCode (_ : RunError) : Nat := 1

/-- The error was raised before anything was read or written. -/
def isConfig : RunError → Bool
  | .config _ => true
  | _ => false

end RunError

end FormLetter
