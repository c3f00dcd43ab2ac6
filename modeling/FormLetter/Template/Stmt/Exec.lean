import FormLetter.Template.Closure
import FormLetter.Template.Expr.Eval

/-!
Running statements. Bodies that stand somewhere else (routines, blocks, other templates, recursive
loops) are reached by jumps, whose number in each other is bounded.
-/
namespace FormLetter.Template

namespace Eval

/-- The values of as many targets. -/
def unpack (count : Nat) (v : Value) : Except Error (List Value) :=
  match v.objectItems? with
  | none => .error (.of .cannotUnpack "value is not iterable")
  | some items =>
    if items.length == count then .ok items
    else
      let counts := s!"expected {Decimal.ofNat count}, got {Decimal.ofNat items.length}"
      .error (.of .cannotUnpack s!"sequence of wrong length ({counts})")

/-- Gives a name of a namespace a value. -/
def assignProperty (owner : Value) (name : String) (v : Value) : Eval Unit := do
  match owner with
  | .cell n =>
    modify fun m => m.setCell n (.names ((m.namesAt n).put name v))
  | v => refuse .invalidOperation s!"can only assign to namespaces, not {v.kind.text}"

end Eval

open Eval

mutual

/-- Assigns a value to a target. -/
def Target.assign (run : Runner) : Target → Value → Eval Unit
  | .name n, v => modify (·.assign n v)
  | .attribute owner name, v => do
    let o ← owner.eval run .undefined
    locate (Expr.lastOf 0 [owner]) (assignProperty o name v)
  | .tuple line parts, v => do
    let v ← opened v
    let vs ← locate line (attempt (unpack parts.length v))
    assignParts run parts vs

def assignParts (run : Runner) : List Target → List Value → Eval Unit
  | p :: rest, v :: vs => do
    p.assign run v
    assignParts run rest vs
  | _, _ => pure ()

end

namespace Eval

/-- Evaluates and assigns one binding after the other. -/
def assignBindings (run : Runner) : List (Target × Expr) → Eval Unit
  | [] => pure ()
  | (target, e) :: rest => do
    target.assign run (← e.eval run .undefined)
    assignBindings run rest

/-- Does something for every item, with the loop's cell at that item. No name that one item is
given lasts to the next. -/
def eachItem (body : Value → Eval Unit) (n : Nat) (index : Nat) (previous : Value) :
    List Value → Eval Unit
  | [] => modify (·.moveLoop n index previous [])
  | v :: rest => do
    modify fun m => (m.moveLoop n index previous rest).mapFrame fun _ => Frame.ofLoop n
    body (← attempt v.valid)
    eachItem body n (index + 1) v rest

/-- Runs a loop in a frame of its own. -/
def runLoop (plan : LoopPlan) (items : List Value) (count : Option Nat) (body : Value → Eval Unit) :
    Eval Unit := do
  let m ← get
  let depth := match m.currentLoop? with
    | some l => if l.plan.recursive then l.depth + 1 else 0
    | none => 0
  let (n, m) := m.allocate (.loop ⟨plan, 0, .undefined, items, count, depth, none⟩)
  set m
  locate plan.line
    (inFrame (Frame.ofLoop n) (eachItem body n 0 .undefined items))

/-- The items for which a condition holds once they are assigned. -/
def chooseItems (assign : Value → Eval Unit) (condition : Eval Bool) :
    List Value → Eval (List Value)
  | [] => pure []
  | v :: rest => do
    assign v
    let chosen ← condition
    let more ← chooseItems assign condition rest
    return if chosen then v :: more else more

/-- The cell of the names that routines of the innermost frame remember. -/
def closureCell : Eval Nat := do
  let m ← get
  match m.frames.head?.bind (·.closure) with
  | some n => return n
  | none =>
    let (n, m) := m.allocate (.names [])
    set (m.mapFrame fun f => { f with closure := some n })
    return n

/-- Remembers the value that a name has, unless it is remembered already. -/
def remember (n : Nat) (name : String) : Eval Unit :=
  modify fun m =>
    let ns := m.namesAt n
    if (ns.lookup name).isSome then m
    else m.setCell n (.names (ns.put name ((m.lookup? name).getD .undefined)))

/-- Makes a routine out of a body and the names that it needs. -/
def makeRoutine (name : String) (params : List Parameter) (body : List Stmt) : Eval Value := do
  let free := freeNames params body
  let needed := free.filter (· != "caller")
  if !needed.isEmpty then
    let n ← closureCell
    needed.forM (remember n)
  let m ← get
  return .routine {
    name := name
    parameters := params
    body := body
    template := m.template
    closure := m.frames.head?.bind (·.closure)
    wantsCaller := free.contains "caller" }

/-- What a value switches escaping to. -/
def escapingFor (v : Value) : Except Error Bool :=
  match v with
  | .text "html" _ => .ok true
  | .text "none" _ => .ok false
  | .text .. => invalid "invalid value to autoescape tag"
  | v => .ok (v.same (.bool true))

/-- Runs a computation with escaping switched. -/
def withEscaping (on : Bool) (x : Eval Unit) : Eval Unit := do
  let m ← get
  set { m with escaping := on }
  x
  modify fun n => { n with escaping := m.escaping }

/-- Blocks as a template without heirs has them. -/
def blockStacks (t : Template) : List BlockStack :=
  t.blocks.map fun b => ⟨b.name, [(t.name, b.body)], 0⟩

/-- Adds a version to the block of a name. -/
def addVersion (found : List BlockStack) (b : BlockStack) : List BlockStack :=
  match found with
  | [] => [b]
  | s :: rest =>
    if s.name == b.name then { s with versions := s.versions ++ b.versions } :: rest
    else s :: addVersion rest b

/-- The error of a template that is not there. -/
def missing (name : String) : Error :=
  .of .templateNotFound s!"template {Text.Quoted.ofString name} does not exist"

def missingTemplate {α : Type} (name : String) : Eval α :=
  throw (missing name)

/-- Makes the current body go on with another template; until then nothing is put out. -/
def inheritFrom (v : Value) : Eval Unit := do
  let m ← get
  if m.parent.isSome then
    refuse .invalidOperation "tried to extend a second time in a template"
  match v.text? with
  | none => refuse .invalidOperation "template name was not a string"
  | some name =>
    if m.loaded.contains name then
      refuse .invalidOperation
        s!"cycle in template inheritance. {Text.Quoted.ofString name} was referenced more than once"
    match m.template? name with
    | none => missingTemplate name
    | some t =>
      set { m with
        loaded := name :: m.loaded
        blocks := (blockStacks t).foldl addVersion m.blocks
        parent := some t
        captures := none :: m.captures }

/-- How much deeper an included template counts. -/
def insertCost : Nat := 10

/-- Runs another template among the current names. -/
def runInserted (run : Runner) (t : Template) : Eval Unit := do
  let m ← get
  let closure := m.frames.head?.bind (·.closure)
  set { m.mapFrame fun f => { f with closure := none } with
    escaping := false
    template := t.name
    blocks := blockStacks t
    outerDepth := m.outerDepth + insertCost }
  checkDepth
  instead (.of .badInclude s!"error in \"{t.name}\"") (run (.body [] t.body))
  modify fun n => { n.mapFrame fun f => { f with closure := closure } with
    escaping := m.escaping
    template := m.template
    blocks := m.blocks
    outerDepth := m.outerDepth
    loaded := m.loaded }

/-- What is reported when none of some templates exist. -/
def noneExists (tried : List Value) : Error :=
  .of .templateNotFound <| match tried with
    | [v] => s!"tried to include non-existing template {v.listing}"
    | vs => "tried to include one of multiple templates, none of which existed " ++
        (Value.list vs).display

/-- Runs the first of some templates that exists. -/
def runFirst (run : Runner) (ignoreMissing : Bool) (tried : List Value) :
    List Value → Eval Unit
  | [] => if tried.isEmpty || ignoreMissing then pure () else throw (noneExists tried)
  | v :: rest => do
    match v.text? with
    | none => refuse .invalidOperation "template name was not a string"
    | some name =>
      match (← get).template? name with
      | some t => runInserted run t
      | none => runFirst run ignoreMissing (tried ++ [v]) rest

/-- The templates that a value names: one, or what iteration over an object meets. -/
def templateChoices (v : Value) : List Value :=
  match v.kind with
  | .plain => []
  | _ => v.objectItems?.getD [v]

/-- Runs the template that a value names, or the first that exists of several. -/
def insertTemplate (run : Runner) (v : Value) (ignoreMissing : Bool) : Eval Unit := do
  runFirst run ignoreMissing [] (templateChoices (← settled v))

/-- Runs another template for the names that it assigns, and takes something from them. -/
def loading {α : Type} (run : Runner) (line : Nat) (e : Expr) (take : Eval α) : Eval α :=
  locate line <| discard <| inFrame .empty do
    let v ← e.eval run .undefined
    insertTemplate run v false
    take

/-- The names of the innermost frame as a map. -/
def ownNames : Eval Value := do
  let locals := ((← get).frames.head?.map (·.locals)).getD []
  return .map (locals.map fun (name, v) => (.ofString name, v))

/-- Puts out the value of an expression. Calls of blocks and recursive loops put out themselves; a
recursion over a spread list is one over the number of its items, which fails. -/
def putExpr (run : Runner) (line : Nat) (e : Expr) : Eval Unit := do
  match e with
  | .call l (.name _ "super") [] => locate l (runSuper run)
  | .call l (.name _ "loop") [a] =>
    let vs ← gather l a.isNamed (evalPositional run .undefined [a]) (evalNamed run .undefined [a])
    locate l (runRecursion run (if a.isSpread then .ofNat vs.length else vs.headD .undefined))
  | .call _ (.attribute _ (.name _ "self") n) _ => locate line (runBlock run n)
  | e => put (← e.eval run .undefined)

/-- What a call that stands in a statement calls. -/
def calledBy (run : Runner) (callee : Expr) : Eval Called := do
  match callee with
  | .name _ n => return .name n
  | .attribute _ (.name _ "self") n => return .block n
  | .attribute _ e n => return .method (← e.eval run .undefined) n
  | e => return .value (← e.eval run .undefined)

/-- The arguments of a call that brings a routine along. -/
def argumentsWith (run : Runner) (line : Nat) (arguments : List Argument)
    (params : List Parameter) (body : List Stmt) : Eval (List Value) :=
  gather line true (evalPositional run .undefined arguments) do
    let named ← evalNamed run .undefined arguments
    return named ++ [.named "caller" (← makeRoutine "caller" params body)]

end Eval

mutual

/-- Runs a statement. -/
def Stmt.exec (run : Runner) : Stmt → Eval Unit
  | .raw _ text => emit text
  | .emit line e => putExpr run line e
  | .loop line target items condition recursive body otherwise => do
    let v ← opened (← items.eval run .undefined)
    let line := Expr.lastOf line [items]
    let all ← locate line (attempt v.asItems)
    let (chosen, count) ← match condition with
      | none => pure (all, v.turns?)
      | some c => do
        let chosen ← locate line (inFrame .empty (chooseItems (target.assign run)
          (do isTrue (← c.eval run .undefined)) all))
        pure (chosen, some chosen.length)
    runLoop ⟨line, target, body, recursive⟩ chosen count fun v => do
      target.assign run v
      execAll run body
    if chosen.isEmpty then execAll run otherwise
  | .branch _ condition yes no => do
    if ← isTrue (← condition.eval run .undefined) then execAll run yes else execAll run no
  | .scope line bindings body =>
    locate line <| inFrame .empty do
      assignBindings run bindings
      execAll run body
  | .assign _ target e => do target.assign run (← e.eval run .undefined)
  | .assignText _ target filter body => do
    let v ← keptText (← capture (execAll run body))
    target.assign run (← match filter with
      | none => pure v
      | some f => f.eval run v)
  | .escaping line e body => do
    let v ← settled (← e.eval run .undefined)
    let on ← locate line (attempt (escapingFor v))
    withEscaping on (execAll run body)
  | .filtered _ filter body => do
    let v ← keptText (← capture (execAll run body))
    put (← filter.eval run v)
  | .block line name _ => do
    let m ← get
    if m.parent.isNone && !m.isDropping then locate line (runBlock run name)
  | .inherit line e => do
    let v ← e.eval run .undefined
    locate line (inheritFrom v)
  | .insert line e ignoreMissing => do
    let v ← e.eval run .undefined
    locate line (insertTemplate run v ignoreMissing)
  | .load line e target => do target.assign run (← loading run line e ownNames)
  | .loadNames line e names => do
    let vs ← loading run line e (names.mapM fun (there, _) => nameValue there)
    ((names.zip vs).reverse).forM fun ((_, here), v) => modify (·.assign here v)
  | .define _ name params body => do
    let r ← makeRoutine name params body
    modify (·.assign name r)
  | .callWith line callee arguments params body => do
    let called ← calledBy run callee
    put (← finishCall run line called (argumentsWith run line arguments params body))
  | .perform line callee arguments => do
    let _ ← (Expr.call line callee arguments).eval run .undefined

/-- Runs statements one after the other. -/
def execAll (run : Runner) : List Stmt → Eval Unit
  | [] => pure ()
  | s :: rest => do
    s.exec run
    execAll run rest

end

namespace Eval

/-- Assigns parameters, the last one first; one without a value gets its default. -/
def assignParameters (run : Runner) : List (Parameter × Value) → Eval Unit
  | [] => pure ()
  | (p, v) :: rest => do
    assignParameters run rest
    let v ← match v, p.default with
      | .undefined, some e => e.eval run .undefined
      | v, _ => pure v
    modify (·.assign p.name v)

/-- Goes on with the template that the body that ended inherits from. -/
def runParent (run : Runner) : Eval Unit := do
  match (← get).parent with
  | none => return ()
  | some t =>
    modify fun m => { m with template := t.name, captures := m.captures.tail }
    run (.body [] t.body)

/-- Runs jumps, so many in each other at most. -/
def jump : Nat → Runner
  | 0, _ => refuse .invalidOperation "recursion limit exceeded"
  | bound + 1, .body parameters stmts => do
    let outer := (← get).parent
    modify fun m => { m with parent := none }
    assignParameters (jump bound) parameters
    execAll (jump bound) stmts
    runParent (jump bound)
    modify fun m => { m with parent := outer }
  | bound + 1, .loop plan items count =>
    runLoop plan items count fun v => do
      plan.target.assign (jump bound) v
      execAll (jump bound) plan.body

/-- As many jumps as can be in each other: every level of depth may hold a chain of templates that
inherit from each other. -/
def jumpLimit (templates : List Template) : Nat :=
  (depthLimit + 2) * (templates.length + 2)

end Eval

/-- The machine before a template runs on data. -/
def Machine.start (templates : List Template) (t : Template) (data : Value) : Machine where
  templates := templates
  frames := [⟨[], none, none, data⟩]
  outerDepth := 0
  cells := ∅
  emitted := ""
  captures := []
  escaping := false
  template := t.name
  blocks := blockStacks t
  currentBlock := none
  loaded := [t.name]
  parent := none

/-- Runs a template on data: the text that goes out, and the failure it ends with if it fails. -/
def run (templates : List Template) (t : Template) (data : Value) :
    String × Option Error :=
  match jump (jumpLimit templates) (.body [] t.body) (Machine.start templates t data) with
  | .ok () m => (m.emitted, none)
  | .error e m => (m.emitted, some e)

end FormLetter.Template
