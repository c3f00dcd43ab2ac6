import FormLetter.Template.Token.Lexer

/-!
Reading tokens one after the other. A fault of the token stream is met when the token behind its
last one is looked at; every other fault is placed at the token read last.
-/
namespace FormLetter.Template

/-- Why tokens make no template. -/
structure GrammarFault where
  kind : ErrorKind
  detail : Option String
  line : Nat
  deriving DecidableEq, Repr

structure Cursor where
  rest : List Located
  /-- What is met behind the last token. -/
  fault : Option LexFault
  /-- The line of the token read last. -/
  line : Nat
  /-- Blocks are not allowed here. -/
  inRoutine : Bool
  /-- The names of the blocks so far. -/
  blocks : List String
  /-- The number of all tokens, which bounds every repetition. -/
  bound : Nat

def Cursor.ofStream (s : TokenStream) : Cursor :=
  ⟨s.tokens, s.fault, 1, false, [], s.tokens.length + 1⟩

abbrev Parse (α : Type) := StateT Cursor (Except GrammarFault) α

namespace Parse

variable {α : Type}

def refuse (detail : String) : Parse α := do
  throw ⟨.badGrammar, some detail, (← get).line⟩

/-- What follows is not what the grammar asks for. -/
def unexpected (t : Option Token) (expectation : String) : Parse α :=
  let found := (t.map Token.describe).getD "end of input"
  refuse s!"unexpected {found}, expected {expectation}"

/-- The next token, which stays unread. -/
def peekLocated : Parse (Option Located) := do
  let c ← get
  match c.rest, c.fault with
  | t :: _, _ => pure (some t)
  | [], none => pure none
  | [], some f => throw ⟨f.kind, f.detail, f.line.getD c.line⟩

def peek : Parse (Option Token) := do
  return (← peekLocated).map (·.token)

/-- The line of the next token, or of the last one. -/
def peekLine : Parse Nat := do
  match (← get).rest with
  | t :: _ => pure t.line
  | [] => pure (← get).line

/-- Reads the next token. -/
def next : Parse (Option Token) := do
  match ← peekLocated with
  | some t =>
    modify fun c => { c with rest := c.rest.tail, line := t.line }
    pure (some t.token)
  | none => pure none

/-- The next token passes a test. -/
def nextIs (p : Token → Bool) : Parse Bool := do
  return (← peek).any p

def nextIsSymbol (s : Symbol) : Parse Bool :=
  nextIs (·.isSymbol s)

/-- Reads the next token if it passes a test. -/
def skipIf (p : Token → Bool) : Parse Bool := do
  if ← nextIs p then
    let _ ← next
    return true
  else return false

def skipSymbol (s : Symbol) : Parse Bool :=
  skipIf (·.isSymbol s)

def skipWord (w : String) : Parse Bool :=
  skipIf (·.isName w)

/-- Reads a token that has to pass a test. -/
def expect (p : Token → Bool) (expectation : String) : Parse Unit := do
  let t ← next
  if t.any p then pure () else unexpected t expectation

def expectSymbol (s : Symbol) (expectation : String) : Parse Unit :=
  expect (·.isSymbol s) expectation

def expectWord (w expectation : String) : Parse Unit :=
  expect (·.isName w) expectation

/-- Reads a name. -/
def identifier : Parse String := do
  match ← next with
  | some (.name n) => pure n
  | t => unexpected t "identifier"

def isVariableEnd : Token → Bool
  | .variableEnd => true
  | _ => false

def isBlockEnd : Token → Bool
  | .blockEnd => true
  | _ => false

def blockEnd : Parse Unit :=
  expect isBlockEnd "end of block"

def tooDeep : Parse α :=
  refuse "template exceeds maximum recursion limits"

/-- Items between commas, up to a closing symbol that may follow a comma. -/
def commaList (close : Symbol) (expectation : String) (item : Parse α) : Parse (List α) := do
  go (← get).bound []
where
  go : Nat → List α → Parse (List α)
    | 0, found => pure found.reverse
    | bound + 1, found => do
      if ← skipSymbol close then return found.reverse
      if !found.isEmpty then
        expectSymbol .comma expectation
        if ← skipSymbol close then return found.reverse
      go bound ((← item) :: found)

end Parse

end FormLetter.Template
