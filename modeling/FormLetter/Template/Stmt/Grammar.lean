import FormLetter.Template.Expr.Grammar
import FormLetter.Template.Stmt

/-!
The grammar of statements. A body runs up to a statement that ends it, or to the end of the
template; an end that is missing is noticed by the statement around the body.
-/
namespace FormLetter.Template

open Parse

namespace StmtGrammar

/-- Names that cannot be assigned to. -/
def reserved : List String :=
  ["true", "True", "false", "False", "none", "None", "loop", "self"]

/-- A name that is assigned to. -/
def assignedName : Parse String := do
  let n ← identifier
  if reserved.contains n then refuse s!"cannot assign to reserved variable name {n}" else pure n

/-- The attributes behind a name. -/
def attributes (line : Nat) (e : Expr) (n : String) : Nat → Parse Target
  | 0 => pure (.attribute e n)
  | bound + 1 => do
    if ← skipSymbol .dot then
      attributes line (.attribute (Expr.lastOf line [e]) e n) (← identifier) bound
    else return .attribute e n

/-- A name, or an attribute if those are allowed. -/
def assignedPlace (dotted : Bool) : Parse Target := do
  let line ← peekLine
  let n ← assignedName
  if dotted then
    if ← skipSymbol .dot then
      return ← attributes line (.name line n) (← identifier) (← get).bound
  return .name n

def endsTargets : Token → Bool
  | .symbol .parenClose | .variableEnd | .blockEnd => true
  | .name n => n == "in"
  | _ => false

/-- One place, or several between commas. A single place with a comma behind it is a tuple. -/
def targets (dotted : Bool) (deeper : Parse Target) : Parse Target := do
  let line ← peekLine
  let rec go : Nat → List Target → Parse (List Target × Bool)
    | 0, found => pure (found.reverse, false)
    | bound + 1, found => do
      if !found.isEmpty then expectSymbol .comma "`,`"
      if ← nextIs endsTargets then return (found.reverse, true)
      let one ← if ← skipSymbol .parenOpen then do
          let inside ← deeper
          expectSymbol .parenClose "`)`"
          pure inside
        else assignedPlace dotted
      if ← nextIsSymbol .comma then go bound (one :: found)
      else return ((one :: found).reverse, !found.isEmpty)
  let (parts, isTuple) ← go (← get).bound []
  match isTuple, parts with
  | false, [one] => return one
  | _, parts => return .tuple line parts

/-- What a statement assigns to. -/
def target (dotted : Bool) : Nat → Parse Target
  | 0 => tooDeep
  | depth + 1 => targets dotted (target dotted depth)

/-- The statements up to one that passes the test; its opening mark is read, its word is not. -/
def bodyUpTo (expression : Parse Expr) (statement : Parse Stmt) (isEnd : Token → Bool) :
    Nat → List Stmt → Parse (List Stmt)
  | 0, found => pure found.reverse
  | bound + 1, found => do
    match ← next with
    | none => return found.reverse
    | some (.data text) =>
      bodyUpTo expression statement isEnd bound (.raw (← get).line text :: found)
    | some .variableStart =>
      let line := (← get).line
      let e ← expression
      expect isVariableEnd "end of variable block"
      bodyUpTo expression statement isEnd bound (.emit line e :: found)
    | some _ =>
      match ← peek with
      | none => refuse "unexpected end of input, expected keyword"
      | some t =>
        if isEnd t then return found.reverse
        let s ← statement
        blockEnd
        bodyUpTo expression statement isEnd bound (s :: found)

/-- The readers that a statement is made of. -/
structure Parts where
  expression : Parse Expr
  /-- An expression without a choice. -/
  value : Parse Expr
  /-- The statements up to one of some words. -/
  body : List String → Parse (List Stmt)

variable (p : Parts)

def loop (line : Nat) : Parse Stmt := do
  let t ← target false ExprGrammar.depthLimit
  expectWord "in" "in"
  let items ← p.value
  let condition ← if ← skipWord "if" then some <$> p.expression else pure none
  let recursive ← skipWord "recursive"
  blockEnd
  let body ← p.body ["endfor", "else"]
  let otherwise ← if ← skipWord "else" then do
      blockEnd
      p.body ["endfor"]
    else pure []
  let _ ← next
  return .loop line t items condition recursive body otherwise

/-- A branch behind its keyword; further conditions are branches of their own. -/
def branch (line : Nat) : Nat → Parse Stmt
  | 0 => tooDeep
  | bound + 1 => do
    let condition ← p.value
    blockEnd
    let yes ← p.body ["endif", "else", "elif"]
    match ← next with
    | some (.name "else") =>
      blockEnd
      let no ← p.body ["endif"]
      let _ ← next
      return .branch line condition yes no
    | some (.name "elif") =>
      let here := (← get).line
      return .branch line condition yes [← branch here bound]
    | _ => return .branch line condition yes []

def bindings : Nat → List (Target × Expr) → Parse (List (Target × Expr))
  | 0, found => pure found.reverse
  | bound + 1, found => do
    if ← nextIs isBlockEnd then return found.reverse
    if !found.isEmpty then expectSymbol .comma "comma"
    let place ← if ← skipSymbol .parenOpen then do
        let inside ← target false ExprGrammar.depthLimit
        expectSymbol .parenClose "`)`"
        pure inside
      else assignedPlace false
    expectSymbol .assign "assignment operator"
    let e ← p.expression
    bindings bound ((place, e) :: found)

/-- The rest of a statement that has a body up to one word. -/
def closed (word : String) : Parse (List Stmt) := do
  blockEnd
  let body ← p.body [word]
  let _ ← next
  return body

def scope (line : Nat) : Parse Stmt := do
  let found ← bindings p (← get).bound []
  return .scope line found (← closed p "endwith")

/-- A chain of filters on captured text. -/
def filterChain : Nat → Option Expr → Parse (Option Expr)
  | 0, found => pure found
  | bound + 1, found => do
    if ← nextIs isBlockEnd then return found
    if found.isSome then expectSymbol .pipe "`|`"
    let line ← peekLine
    let n ← ExprGrammar.dottedName
    let args ← ExprGrammar.optionalArguments p.expression p.value
    filterChain bound
      (some (.filter (Expr.lastOf line (found.toList ++ Argument.parts args)) n found args))

def filters : Parse Expr := do
  match ← filterChain p (← get).bound none with
  | some f => pure f
  | none => refuse "expected a filter"

/-- Values behind commas, up to the end of the statement. -/
def moreValues : Nat → List Expr → Parse (List Expr)
  | 0, found => pure found.reverse
  | bound + 1, found => do
    if ← skipSymbol .comma then
      if ← nextIs isBlockEnd then return found.reverse
      moreValues bound ((← p.expression) :: found)
    else return found.reverse

/-- A value, or a list if there is a comma. -/
def assignedValue : Parse Expr := do
  let line ← peekLine
  let e ← p.expression
  if ← nextIsSymbol .comma then
    let items ← moreValues p (← get).bound [e]
    return .list (Expr.lastOf line items) items
  else return e

def assignment (line : Nat) : Parse Stmt := do
  let place ← target true ExprGrammar.depthLimit
  if ← nextIs fun t => isBlockEnd t || t.isSymbol .pipe then
    let filter ← if ← skipSymbol .pipe then some <$> filters p else pure none
    return .assignText line place filter (← closed p "endset")
  else
    expectSymbol .assign "assignment operator"
    return .assign line place (← assignedValue p)

/-- A named block; words behind its name may say that it sees the names around it, and that heirs
have to give it another body. -/
def block (line : Nat) : Parse Stmt := do
  if (← get).inRoutine then refuse "block tags in macros are not allowed"
  let n ← identifier
  if (← get).blocks.contains n then refuse s!"block '{n}' defined twice"
  modify fun c => { c with blocks := n :: c.blocks }
  let _ ← skipWord "scoped"
  let _ ← skipWord "required"
  let body ← closed p "endblock"
  match ← peek with
  | some (.name trailing) =>
    if trailing != n then
      refuse s!"mismatching name on block. Got `{trailing}`, expected `{n}`"
    let _ ← next
  | _ => pure ()
  return .block line n body

/-- Words about the context that change nothing. -/
def contextWords : Parse Unit := do
  if ← skipIf fun t => t.isName "without" || t.isName "with" then
    expectWord "context" "missing keyword"

def insert (line : Nat) : Parse Stmt := do
  let e ← p.expression
  contextWords
  let ignoreMissing ← skipWord "ignore"
  if ignoreMissing then
    expectWord "missing" "missing keyword"
    contextWords
  return .insert line e ignoreMissing

def load (line : Nat) : Parse Stmt := do
  let e ← p.expression
  expectWord "as" "as"
  let place ← assignedPlace false
  contextWords
  return .load line e place

def importedNames : Nat → List (String × String) → Parse (List (String × String))
  | 0, found => pure found.reverse
  | bound + 1, found => do
    let isEnd := nextIs fun t => isBlockEnd t || t.isName "without" || t.isName "with"
    if ← isEnd then return found.reverse
    if !found.isEmpty then expectSymbol .comma "comma"
    if ← isEnd then return found.reverse
    let n ← assignedName
    let given ← if ← skipWord "as" then assignedName else pure n
    importedNames bound ((n, given) :: found)

def loadNames (line : Nat) : Parse Stmt := do
  let e ← p.expression
  expectWord "import" "import"
  let names ← importedNames (← get).bound []
  contextWords
  return .loadNames line e names

/-- Parameters behind an opening bracket; behind one with a default all have one. -/
def parameters : Nat → List Parameter → Parse (List Parameter)
  | 0, found => pure found.reverse
  | bound + 1, found => do
    if ← skipSymbol .parenClose then return found.reverse
    if !found.isEmpty then
      expectSymbol .comma "`,`"
      if ← skipSymbol .parenClose then return found.reverse
    let n ← assignedName
    if ← skipSymbol .assign then
      parameters bound (⟨n, some (← p.expression)⟩ :: found)
    else if found.any (·.default.isSome) then
      expectSymbol .assign "`=`"
      parameters bound (⟨n, none⟩ :: found)
    else parameters bound (⟨n, none⟩ :: found)

/-- The body of a routine. -/
def routineBody (word : String) : Parse (List Stmt) := do
  blockEnd
  let outside := (← get).inRoutine
  modify fun c => { c with inRoutine := true }
  let body ← p.body [word]
  modify fun c => { c with inRoutine := outside }
  let _ ← next
  return body

def define (line : Nat) : Parse Stmt := do
  let n ← identifier
  expectSymbol .parenOpen "`(`"
  let params ← parameters p (← get).bound []
  return .define line n params (← routineBody p "endmacro")

/-- An expression that has to be a call. -/
def calling : Parse (Nat × Expr × List Argument) := do
  match ← p.expression with
  | .call line callee args => pure (line, callee, args)
  | e => refuse s!"expected call expression in call block, got {e.describe}"

/-- The line behind the last statement of a body. -/
def bodyLine (line : Nat) (body : List Stmt) : Nat :=
  match body.getLast? with
  | some (.raw l _) => l
  | some (.emit l e) => e.lastLine?.getD l
  | _ => line

def callWith : Parse Stmt := do
  let params ← if ← skipSymbol .parenOpen then parameters p (← get).bound [] else pure []
  let (line, callee, args) ← calling p
  let body ← routineBody p "endcall"
  return .callWith (bodyLine line body) callee args params body

def perform : Parse Stmt := do
  let (line, callee, args) ← calling p
  return .perform line callee args

/-- A statement behind its opening mark. -/
def statement : Parse Stmt := do
  let t ← next
  let line := (← get).line
  match t with
  | none => unexpected none "block keyword"
  | some (.name keyword) =>
    match keyword with
    | "for" => loop p line
    | "if" => branch p line (← get).bound
    | "with" => scope p line
    | "set" => assignment p line
    | "autoescape" => do
      let e ← p.expression
      return .escaping line e (← closed p "endautoescape")
    | "filter" => do
      let f ← filters p
      return .filtered line f (← closed p "endfilter")
    | "block" => block p line
    | "extends" => return .inherit line (← p.expression)
    | "include" => insert p line
    | "import" => load p line
    | "from" => loadNames p line
    | "macro" => define p line
    | "call" => callWith p
    | "do" => perform p
    | n => refuse s!"unknown statement {n}"
  | some t => refuse s!"unknown {t.describe}, expected statement"

/-- The statements up to one that passes the test, given how much deeper they may go. -/
def bodyAt : Nat → (Token → Bool) → Parse (List Stmt)
  | 0, isEnd => fun c => bodyUpTo (ExprGrammar.expr 0) tooDeep isEnd c.bound [] c
  | depth + 1, isEnd => fun c =>
    let parts : Parts := {
      expression := ExprGrammar.expr depth
      value := ExprGrammar.disjunctionAt depth
      body := fun words => bodyAt depth fun
        | .name n => words.contains n
        | _ => false }
    bodyUpTo (ExprGrammar.expr (depth + 1)) (statement parts) isEnd c.bound [] c

end StmtGrammar

/-- The template that a source text stands for. -/
def read (name source : String) : Except Error Template :=
  let cursor := Cursor.ofStream (Lexer.tokenize source)
  match StmtGrammar.bodyAt ExprGrammar.depthLimit (fun _ => false) cursor with
  | .ok (body, _) => .ok ⟨name, body, blocksOf body⟩
  | .error fault => .error ⟨fault.kind, fault.detail, some ⟨name, fault.line⟩⟩

end FormLetter.Template
