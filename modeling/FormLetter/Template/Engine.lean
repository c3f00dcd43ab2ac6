import FormLetter.Render.Engine
import FormLetter.Template.Stmt.Exec
import FormLetter.Template.Stmt.Grammar

/-!
The engine of the template language: a store of compiled templates. A source that breaks the
grammar leaves the store as it was, and running a template never changes it.
-/
namespace FormLetter.Template

/-- Compiled templates; a name stands for the first template that has it. -/
abbrev Store := List Template

def emptyStore : Store := []

namespace Store

def find? (s : Store) (name : String) : Option Template :=
  List.find? (·.name == name) s

/-- Puts a template in place of an earlier one of its name. -/
def insert (s : Store) (t : Template) : Store :=
  t :: s.filter (·.name != t.name)

/-- Compiles a source. -/
def compile (s : Store) (name source : String) : Store × Except RenderError Unit :=
  match Template.read name source with
  | .ok t => (s.insert t, .ok ())
  | .error e => (s, .error (.ofTemplate e))

/-- Runs a template on data. -/
def execute (s : Store) (name : String) (data : Json) : Execution :=
  match s.find? name with
  | none => ⟨[], some (.ofTemplate (Eval.missing name))⟩
  | some t =>
    let (text, failure) := t.run s (.ofJson data)
    ⟨bytesOf text, failure.map .ofTemplate⟩

end Store

/-- The openers of expressions and statements. -/
def markers : List String := ["\x7b\x7b", "\x7b%"]

/-- The error of an execution whose output refuses a write. -/
def writeError : Error :=
  .of .writeFailure "I/O error during rendering"

def engine : Engine Store where
  markers := markers
  compile := Store.compile
  execute := fun s name data => (s, s.execute name data)
  has := fun s name => (s.find? name).isSome
  refused := fun _ => .ofTemplate writeError

end FormLetter.Template
