import FormLetter.CommandLine.Flags
import FormLetter.Error

/-!
Validated configurations. Every check happens before anything is read or written.
-/
namespace FormLetter

structure Config where
  csv : Source
  template : Source
  /-- The value of the output option as given. -/
  out : String
  table : TableOptions
  force : Bool
  deriving DecidableEq, Repr

namespace Config

/-- The separator is one character other than a quote or a line break. -/
def separator (raw : String) : Except ConfigError Char :=
  match raw.toList with
  | [c] => if c = '"' ∨ c = '\r' ∨ c = '\n' then .error (.unsupportedSeparator c) else .ok c
  | _ => .error (.invalidSeparator raw)

def classified (files : FileTree) (raw : String) (wrap : InputError → RunError) :
    Except RunError Source :=
  match Source.classify files raw with
  | .ok s => .ok s
  | .error e => .error (wrap e)

/-- Validates flags and settles what their sources are. -/
def ofFlags (files : FileTree) (flags : CommandLine.Flags) : Except RunError Config := do
  let csv := flags.csv.getD ""
  let template := flags.template.getD ""
  if csv.isEmpty && template.isEmpty then .error (.config .missingInput)
  else if flags.counter.isEmpty then .error (.config .emptyCounter)
  else match separator flags.csvSep with
  | .error e => .error (.config e)
  | .ok separator =>
    let csv ← classified files csv .readCsv
    let template ← classified files template .readTemplate
    if csv.isStdin && template.isStdin then .error (.config .stdinConflict)
    else .ok ⟨csv, template, flags.out.getD "", ⟨separator, !flags.noheader, flags.counter⟩,
      flags.force⟩

end Config

end FormLetter
