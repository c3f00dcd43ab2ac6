import FormLetter.CommandLine.Arguments
import FormLetter.Run
import FormLetter.Template.Engine

/-!
The whole program: reading the arguments, running, and reporting what went wrong. Nothing is
reported about a report that cannot be written.
-/
namespace FormLetter.CommandLine

/-- The name of the program as reports show it, in bold red on request. -/
def reportName (color : Bool) : String :=
  if color then "\x1b[31m\x1b[1m" ++ programName ++ "\x1b[0m" else programName

/-- Writes to standard error what can be written. -/
def tell (text : String) (w : World) : World :=
  (w.complain text).1

/-- One report about the program. -/
def report (color : Bool) (message : String) (w : World) : World :=
  tell (reportName color ++ ": " ++ message ++ "\n") w

/-- Where a wrong configuration points to. -/
def usageHint : String := s!"Run '{programName} --help' for usage.\n"

def reportError (color : Bool) (e : RunError) (w : World) : World :=
  let w := report color e.message w
  if e.isConfig then tell usageHint w else w

/-- Prints a text that was asked for; the exit status says whether it was written. -/
def answer (text : String) (w : World) : World × Nat :=
  match w.print text with
  | (w, .ok ()) => (w, 0)
  | (w, .error _) => (w, 1)

/-- Validates flags and runs what they ask for. -/
def runFlags (flags : Flags) (stdin : Stdin) (w : World) : World × Except RunError Unit :=
  match Config.ofFlags w.files flags with
  | .error e => (w, .error e)
  | .ok config =>
    let (s, result) := runWith Template.engine config stdin ⟨Template.emptyStore, w⟩
    (s.world, result)

/-- The exit status of a run, after its failure has been reported. -/
def conclude (color : Bool) : World × Except RunError Unit → World × Nat
  | (w, .ok ()) => (w, 0)
  | (w, .error e) => (reportError color e w, e.exitCode)

/-- The program with its arguments, the first of which is the name it was called by. Without any
other argument it prints its help. -/
def runProgram (argv : List String) (stdin : Stdin) (color : Bool) (w : World) : World × Nat :=
  match argv with
  | [] | [_] => answer (helpText programName) w
  | path :: arguments =>
    match readFlags arguments with
    | .ok flags => conclude color (runFlags flags stdin w)
    | .error e =>
      let program := calledName path
      match e with
      | .help | .version => answer (e.message program) w
      | e => (report color (e.report program) w, 1)

end FormLetter.CommandLine
