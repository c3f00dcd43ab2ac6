import FormLetter.Template.Builtin
import FormLetter.Template.Machine

/-!
Calls of routines, functions, methods, blocks and loops. What a call runs is handed to a runner as a
jump, so that nothing here runs statements itself.
-/
namespace FormLetter.Template

/-- Statements to run somewhere else than where they stand. -/
inductive Jump where
  /-- A body, after its parameters have got their values. -/
  | body (parameters : List (Parameter × Value)) (stmts : List Stmt)
  /-- A loop over other items. -/
  | loop (plan : LoopPlan) (items : List Value) (count : Option Nat)

/-- Runs a jump and puts out what it puts out. -/
abbrev Runner := Jump → Eval Unit

namespace Eval

/-- How much deeper a called routine counts. -/
def routineCost : Nat := 4

/-- Puts another error in place of a failure. -/
def instead {α : Type} (e : Error) (x : Eval α) : Eval α := fun m =>
  match x m with
  | .ok a m' => .ok a m'
  | .error _ m' => .error e m'

/-- Runs the version of a block that its level points to. -/
def runVersion (run : Runner) (b : BlockStack) : Eval Unit := do
  match b.versions[b.level]? with
  | none => return ()
  | some (template, body) =>
    let m ← get
    inFrame .empty do
      modify fun m => { m with currentBlock := some b.name, template := template }
      run (.body [] body)
    modify fun n => { n with currentBlock := m.currentBlock, template := m.template }

/-- Runs a named block. -/
def runBlock (run : Runner) (name : String) : Eval Unit := do
  match (← get).blocks.find? (·.name == name) with
  | none => refuse .unknownBlock s!"block '{name}' not found"
  | some b => runVersion run b

/-- Makes a block point to another of its versions. -/
def setLevel (name : String) (level : Nat) : Eval Unit :=
  modify fun m => { m with
    blocks := m.blocks.map fun b => if b.name == name then { b with level := level } else b }

/-- Runs the version that the running version of a block stands in for. -/
def runSuper (run : Runner) : Eval Unit := do
  let m ← get
  match m.currentBlock.bind fun name => m.blocks.find? (·.name == name) with
  | none => refuse .invalidOperation "cannot super outside of block"
  | some b =>
    if b.versions.length ≤ b.level + 1 then
      refuse .invalidOperation "no parent block exists"
    setLevel b.name (b.level + 1)
    instead (.of .badBlock "error in super block")
      (runVersion run { b with level := b.level + 1 })
    setLevel b.name b.level

/-- Runs the loop around the current statement over other items, if it is recursive. -/
def runRecursion (run : Runner) (items : Value) : Eval Unit := do
  match (← get).currentLoop? with
  | none => refuse .unknownFunction "loop is unknown"
  | some l =>
    if l.plan.recursive then
      let v ← settled items
      match v.items? with
      | some items => run (.loop l.plan (items.map (← get).attached) v.turns?)
      | none =>
        locate l.plan.line <|
          refuse .invalidOperation "cannot recurse because of non-iterable value"
    else refuse .invalidOperation "cannot recurse outside of recursive loop"

/-- The value that a parameter gets from the arguments of a call. -/
def argumentFor (name : String) (given : Option Value) (named : Option Value) :
    Except Error Value :=
  match given, named with
  | some _, some _ => .error (.of .tooManyArguments s!"duplicate argument `{name}`")
  | some v, none | none, some v => .ok v
  | none, none => .ok .undefined

/-- The values that parameters get from the arguments in their order and those by name. -/
def bindArguments (named : List (String × Value)) :
    List Parameter → List Value → Except Error (List (Parameter × Value))
  | [], [] => .ok []
  | [], _ :: _ => .error (.plain .tooManyArguments)
  | p :: rest, given => do
    let v ← argumentFor p.name given.head? (Named.get? named p.name)
    return (p, v) :: (← bindArguments named rest given.tail)

/-- Arguments in order, and those by name behind them. -/
def splitArguments (arguments : List Value) : List Value × List (String × Value) :=
  match arguments.getLast? with
  | some (.named entries) => (arguments.dropLast, entries)
  | _ => (arguments, [])

/-- What a call passes to a routine: the values of its parameters, and the routine that the call
brings along. -/
def bindRoutine (r : Routine) (arguments : List Value) :
    Except Error (List (Parameter × Value) × Option Value) := do
  let (given, named) := splitArguments arguments
  if r.parameters.length < given.length then throw (.plain .tooManyArguments)
  let bound ← bindArguments named r.parameters given
  let known := r.parameters.map (·.name) ++ if r.wantsCaller then ["caller"] else []
  match named.find? fun (name, _) => !known.contains name with
  | some (name, _) =>
    throw (.of .tooManyArguments s!"unknown keyword argument `{name}`")
  | none =>
    return (bound, if r.wantsCaller then some ((Named.get? named "caller").getD .undefined)
      else none)

/-- The frames that a routine starts with: what it remembers, around that the data. -/
def routineFrames (r : Routine) (caller : Option Value) (frames : List Frame) : List Frame :=
  let locals := match caller with
    | some v => [("caller", v)]
    | none => []
  let remembered := match r.closure with
    | some n => .cell n
    | none => .undefined
  [⟨locals, none, none, remembered⟩, ⟨[], none, none, (frames.getLastD .empty).base⟩]

/-- Calls a routine; its value is the text that it puts out. -/
def callRoutine (run : Runner) (r : Routine) (arguments : List Value) : Eval Value := do
  let (bound, caller) ← attempt (bindRoutine r arguments)
  let m ← get
  let text ← capture do
    modify fun m => { m with
      frames := routineFrames r caller m.frames
      outerDepth := m.depth + routineCost
      template := r.template
      blocks := []
      currentBlock := none
      loaded := [] }
    checkDepth
    run (.body bound r.body)
  modify fun n => { n with
    frames := m.frames, outerDepth := m.outerDepth, template := m.template, blocks := m.blocks
    currentBlock := m.currentBlock, loaded := m.loaded }
  keptText text

/-- A new namespace. -/
def newNamespace (arguments : List Value) : Eval Value := do
  let names ← attempt (Builtin.namespaceNames arguments)
  let m ← get
  let (n, m) := m.allocate
    (.names (names.foldl (fun ns (name, v) => ns.put name (m.attached v)) []))
  set m
  return .cell n

def settledAll (vs : List Value) : Eval (List Value) := do
  return vs.map (← get).settled

def callBuiltin (b : Builtin) (arguments : List Value) : Eval Value := do
  match b with
  | .range => attempt (Builtin.callRange (← settledAll arguments))
  | .dict => attached (← attempt (Builtin.callDict (← settledAll arguments)))
  | .debug => attempt (Builtin.callDebug (← settledAll arguments))
  | .newNamespace => newNamespace (← settledAll arguments)

/-- Calls a value. -/
def callValue (run : Runner) (callee : Value) (arguments : List Value) : Eval Value := do
  match callee with
  | .routine r => callRoutine run r arguments
  | .builtin b => callBuiltin b arguments
  | .loop _ => refuse .invalidOperation "loop recursion cannot be called this way"
  | v =>
    match v.kind with
    | .sequence | .map | .iterator | .plain => refuse .invalidOperation "object is not callable"
    | k => refuse .invalidOperation s!"value of type {k.text} is not callable"

/-- Whether the arguments differ from those of the last time. -/
def loopChanged (n : Nat) (l : LoopState) (arguments : List Value) : Eval Value := do
  let now ← settledAll arguments
  match l.watched with
  | some before => if Value.sameItems before now then return .bool false
  | none => pure ()
  modify fun m => m.setCell n (.loop { l with watched := some now })
  return .bool true

def callLoopMethod (run : Runner) (n : Nat) (name : String) (arguments : List Value) :
    Eval Value := do
  let unknown : Eval Value := refuse .unknownMethod s!"map has no method named {name}"
  match (← get).loopAt? n with
  | none => unknown
  | some l =>
    match name with
    | "changed" => loopChanged n l arguments
    | "cycle" => return (arguments[l.index % arguments.length]?).getD .undefined
    | name =>
      match l.member? name with
      | some callee => callValue run callee arguments
      | none => unknown

/-- Calls what stands under a name of a value. -/
def callMethod (run : Runner) (v : Value) (name : String) (arguments : List Value) :
    Eval Value := do
  match v with
  | .loop n => callLoopMethod run n name arguments
  | v =>
    match (← get).member? name v with
    | some callee => callValue run callee arguments
    | none => refuse .unknownMethod s!"{v.kind.text} has no method named {name}"

/-- Calls what a name stands for. Every name of a loop calls the loop around the call. -/
def callName (run : Runner) (name : String) (arguments : List Value) : Eval Value := do
  match name, arguments with
  | "super", [] => keptText (← capture (runSuper run))
  | "super", _ => refuse .invalidOperation "super() takes no arguments"
  | name, arguments =>
    match (← get).lookup? name with
    | some (.loop _) =>
      match arguments with
      | [items] => keptText (← capture (runRecursion run items))
      | _ => refuse .invalidOperation "loop() takes one argument"
    | some callee => callValue run callee arguments
    | none => refuse .unknownFunction s!"{name} is unknown"

end Eval

end FormLetter.Template
