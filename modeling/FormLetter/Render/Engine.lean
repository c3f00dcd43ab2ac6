import FormLetter.Template.Error
import FormLetter.Text.Search
import FormLetter.Text.Utf8

/-!
Template engines: named templates are compiled into a state and executed with data. An execution
is the bytes it hands to its output, in order, and the error it ends with if it fails.
-/
namespace FormLetter

/-- The data of an execution. Objects keep the order of their members; whole numbers and floats are
told apart. -/
inductive Json where
  | null
  | bool (b : Bool)
  | int (n : Int)
  | float (x : Float)
  | string (s : String)
  | array (items : List Json)
  | object (members : List (String × Json))
  deriving Inhabited

structure Execution where
  emitted : Bytes
  failure : Option RenderError
  deriving DecidableEq, Repr

structure Engine (σ : Type) where
  /-- The tokens that give a text away as a template. -/
  markers : List String
  compile : σ → String → String → σ × Except RenderError Unit
  execute : σ → String → Json → σ × Execution
  /-- A template of that name can be executed. -/
  has : σ → String → Bool
  /-- How an execution reports that its output refused a write. -/
  refused : IoFault → RenderError

namespace Engine

variable {σ : Type} (e : Engine σ)

/-- A purely textual test. -/
def containsExpression (text : String) : Bool :=
  e.markers.any fun m => Text.occursIn m.toList text.toList

/-- How an execution ends whose bytes were written. A refused write ends it before any error of
its own. -/
def outcome (x : Execution) : Except IoFault Unit → Except RenderError Unit
  | .error fault => .error (e.refused fault)
  | .ok () =>
    match x.failure with
    | some err => .error err
    | none => .ok ()

/-- Executes a template whose output has to be text. -/
def executeToString (s : σ) (name : String) (context : Json) : σ × Except RenderError String :=
  let (s, x) := e.execute s name context
  match x.failure with
  | some err => (s, .error err)
  | none =>
    match Text.Utf8.decode? x.emitted, Text.Utf8.fault? x.emitted with
    | some cs, _ => (s, .ok (String.ofList cs))
    | none, some fault => (s, .error (.operation fault.message))
    | none, none => (s, .error (.operation ""))

end Engine

/-- What an engine is asked to do. -/
inductive Call where
  | compile (name : String)
  | execute (name : String) (context : Json)

/-- The engine that behaves like the given one and keeps the list of calls. -/
def Engine.recorded {σ : Type} (e : Engine σ) : Engine (σ × List Call) where
  markers := e.markers
  compile := fun (s, calls) name source =>
    let (s, result) := e.compile s name source
    ((s, calls ++ [.compile name]), result)
  execute := fun (s, calls) name context =>
    let (s, x) := e.execute s name context
    ((s, calls ++ [.execute name context]), x)
  has := fun (s, _) name => e.has s name
  refused := e.refused

/-- The engine that emits the same bytes whatever it is asked. -/
def Engine.constant (markers : List String) (emitted : Bytes) : Engine Unit where
  markers := markers
  compile := fun _ _ _ => ((), .ok ())
  execute := fun _ _ _ => ((), ⟨emitted, none⟩)
  has := fun _ _ => true
  refused := .io

end FormLetter
