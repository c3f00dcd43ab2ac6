import FormLetter.Csv.Quoting
import FormLetter.Files.Path
import FormLetter.Text.Quoted
import FormLetter.Decimal.Integer

/-!
What can go wrong while a source is read or a table is loaded.
-/
namespace FormLetter

inductive InputError where
  /-- The source could not be probed or read. -/
  | sourceUnavailable (path : String) (cause : IoFault)
  | stdinFailed (cause : IoFault)
  /-- Not a single record. -/
  | emptySource
  | malformed (cause : Csv.Quoting.Malformed)
  /-- The text uses every character that could stand in for the separator. -/
  | separatorUnavailable (separator : Char)
  /-- A field is no text. -/
  | unreadable
  deriving DecidableEq, Repr

def InputError.message : InputError → String
  | .sourceUnavailable path cause => s!"open {path}: {cause.message}"
  | .stdinFailed cause => s!"read stdin: {cause.message}"
  | .emptySource => "csv is empty"
  | .malformed m => s!"line {Decimal.ofNat m.line}: {m.fault.message}"
  | .separatorUnavailable c =>
    s!"separator {Text.Quoted.ofChar c} cannot be used with this text"
  | .unreadable => "CSV parse error: invalid utf-8"

/-- The messages of the causes behind the error. -/
def InputError.causes : InputError → List String
  | .sourceUnavailable _ cause => [cause.message]
  | .stdinFailed cause => [cause.message]
  | _ => []

end FormLetter
