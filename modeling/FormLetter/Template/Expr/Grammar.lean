import FormLetter.Template.Expr
import FormLetter.Template.Token.Cursor

/-!
The grammar of expressions. From weak to strong: the choice between two values, or, and, not,
comparison, sums, joined texts, products, powers, and then what stands behind a value. Operators
of one strength group to the left.
-/
namespace FormLetter.Template

open Parse

namespace ExprGrammar

/-- A left-grouping row of operands. `start` is the line the row starts on. -/
def row (operand : Parse Expr) (operator? : Token → Option Operator) (start : Nat) :
    Nat → Expr → Parse Expr
  | 0, left => pure left
  | bound + 1, left => do
    match (← peek).bind operator? with
    | none => pure left
    | some op =>
      let _ ← next
      let right ← operand
      row operand operator? start bound
        (.operate (Expr.lastOf start [left, right]) op left right)

/-- One strength of operators. -/
def level (operator? : Token → Option Operator) (operand : Parse Expr) : Parse Expr := do
  let start ← peekLine
  let left ← operand
  row operand operator? start (← get).bound left

def symbolOperator? (pairs : List (Symbol × Operator)) : Token → Option Operator
  | .symbol s => (pairs.find? (·.1 == s)).map (·.2)
  | _ => none

def powers : Parse Expr → Parse Expr :=
  level (symbolOperator? [(.power, .power)])

def products : Parse Expr → Parse Expr :=
  level (symbolOperator?
    [(.times, .multiply), (.divide, .divide), (.floorDivide, .floorDivide), (.modulo, .modulo)])

def joins : Parse Expr → Parse Expr :=
  level (symbolOperator? [(.tilde, .concat)])

def sums : Parse Expr → Parse Expr :=
  level (symbolOperator? [(.plus, .add), (.minus, .subtract)])

def comparison? : Token → Option Operator
  | .name n => if n == "in" then some .within else none
  | t => symbolOperator? [(.equal, .equal), (.notEqual, .notEqual), (.less, .less),
      (.lessEqual, .lessEqual), (.greater, .greater), (.greaterEqual, .greaterEqual)] t

/-- The comparisons behind a value, each with the line of the part read last. -/
def comparisonRow (operand : Parse Expr) : Nat → Nat → Parse (List Link)
  | 0, _ => pure []
  | bound + 1, line => do
    match ← peek with
    | none => pure []
    | some t =>
      let negated := t.isName "not"
      match if negated then some .within else comparison? t with
      | none => pure []
      | some op =>
        let _ ← next
        if negated then expectWord "in" "in"
        let right ← operand
        let here := Expr.lastOf line [right]
        return .mk here op negated right :: (← comparisonRow operand bound here)

/-- One comparison, or several in a row. -/
def comparisons (operand : Parse Expr) : Parse Expr := do
  let start ← peekLine
  let left ← operand
  match ← comparisonRow operand (← get).bound (Expr.lastOf start [left]) with
  | [] => return left
  | [.mk line op negated right] =>
    let found := Expr.operate line op left right
    return if negated then .not found else found
  | links => return .chain left links

/-- The number of times a token stands in a row. -/
def repeated (p : Token → Bool) : Nat → Parse Nat
  | 0 => pure 0
  | bound + 1 => do
    if ← skipIf p then return (← repeated p bound) + 1 else return 0

def negations (operand : Parse Expr) : Parse Expr := do
  let count ← repeated (·.isName "not") (← get).bound
  let e ← operand
  return Nat.repeat Expr.not count e

/-- A left-grouping row of operands joined by a word. -/
def wordRow (word : String) (join : Expr → Expr → Expr) (operand : Parse Expr) :
    Nat → Expr → Parse Expr
  | 0, left => pure left
  | bound + 1, left => do
    if ← skipWord word then
      let right ← operand
      wordRow word join operand bound (join left right)
    else pure left

def joined (word : String) (join : Expr → Expr → Expr) (operand : Parse Expr) : Parse Expr := do
  let left ← operand
  wordRow word join operand (← get).bound left

/-- Choices group to the right behind `else`, and to the left without it. -/
def choices (operand : Parse Expr) : Nat → Parse Expr
  | 0 => operand
  | bound + 1 => do
    let first ← operand
    more (choices operand bound) (← get).bound first
where
  more (otherwise : Parse Expr) : Nat → Expr → Parse Expr
    | 0, e => pure e
    | bound + 1, e => do
      if ← skipWord "if" then
        let condition ← operand
        let no ← if ← skipWord "else" then some <$> otherwise else pure none
        more otherwise bound (.choose condition e no)
      else pure e

/-- One argument: named, spread or plain. -/
def argument (inner value : Parse Expr) : Parse Argument := do
  if ← skipSymbol .power then return .spreadNamed (← inner)
  if ← skipSymbol .times then return .spread (← inner)
  let e ← inner
  match e with
  | .name _ n => if ← skipSymbol .assign then return .named n (← value) else return .positional e
  | _ => return .positional e

def Argument.isNamed : Argument → Bool
  | .named .. | .spreadNamed .. => true
  | _ => false

/-- A plain argument, which cannot stand behind a named one. -/
def Argument.isPlain : Argument → Bool
  | .positional _ => true
  | _ => false

/-- How many arguments a call can have. -/
def argumentLimit : Nat := 2000

/-- The arguments of a call behind its opening bracket. `inner` reads any expression, `value` one
without a choice. -/
def argumentList (inner value : Parse Expr) : Nat → List Argument → Parse (List Argument)
  | 0, found => pure found.reverse
  | bound + 1, found => do
    if ← skipSymbol .parenClose then return found.reverse
    if !found.isEmpty then
      expectSymbol .comma "`,`"
      if ← skipSymbol .parenClose then return found.reverse
    let a ← argument inner value
    if Argument.isPlain a && found.any Argument.isNamed then
      refuse "non-keyword arg after keyword arg"
    if argumentLimit < found.length + 1 then refuse "Too many arguments in function call"
    argumentList inner value bound (a :: found)

def arguments (inner value : Parse Expr) : Parse (List Argument) := do
  expectSymbol .parenOpen "`(`"
  argumentList inner value (← get).bound []

/-- The parts of a call that its line depends on. -/
def callParts (callee : Expr) (args : List Argument) : List Expr :=
  match callee with
  | .name .. => Argument.parts args
  | .attribute _ (.name line n) _ =>
    if n == "self" then [] else .name line n :: Argument.parts args
  | .attribute _ e _ => e :: Argument.parts args
  | e => e :: Argument.parts args

/-- What stands in square brackets behind a value. -/
def subscript (inner : Parse Expr) (line : Nat) (e : Expr) : Parse Expr := do
  let start ← if ← nextIsSymbol .colon then pure none else some <$> inner
  if ← skipSymbol .colon then
    let ends := nextIs fun t => t.isSymbol .bracketClose || t.isSymbol .colon
    let stop ← if ← ends then pure none else some <$> inner
    let step ← if ← skipSymbol .colon then
        if ← nextIsSymbol .bracketClose then pure none else some <$> inner
      else pure none
    expectSymbol .bracketClose "`]`"
    let parts := e :: (start.toList ++ stop.toList ++ step.toList)
    return .slice (Expr.lastOf line parts) e start stop step
  else
    expectSymbol .bracketClose "`]`"
    match start with
    | some key => return .item (Expr.lastOf line [e, key]) e key
    | none => refuse "empty subscript"

/-- Attributes, subscripts and calls behind a value that starts on a line. -/
def postfixes (inner value : Parse Expr) : Nat → Nat → Expr → Parse Expr
  | 0, _, e => pure e
  | bound + 1, line, e => do
    let here ← peekLine
    match ← peek with
    | some (.symbol .dot) =>
      let _ ← next
      let at_ ← peekLine
      match ← next with
      | some (.name n) =>
        postfixes inner value bound here (.attribute (Expr.lastOf line [e]) e n)
      | some (.whole n) =>
        let key := Expr.literal at_ (.int n)
        postfixes inner value bound here (.item (Expr.lastOf line [e, key]) e key)
      | t => unexpected t "identifier or integer"
    | some (.symbol .bracketOpen) =>
      let _ ← next
      postfixes inner value bound here (← subscript inner line e)
    | some (.symbol .parenOpen) =>
      let args ← arguments inner value
      postfixes inner value bound here (.call (Expr.lastOf line (callParts e args)) e args)
    | _ => pure e

/-- A value with the signs in front of it. -/
def signed (primary : Parse Expr) : Nat → Parse Expr
  | 0 => primary
  | bound + 1 => do
    let line ← peekLine
    if ← skipSymbol .minus then return .negate line (← signed primary bound) else primary

/-- Arguments in brackets if an opening one follows. -/
def optionalArguments (inner value : Parse Expr) : Parse (List Argument) := do
  if ← nextIsSymbol .parenOpen then arguments inner value else pure []

/-- A token that can start the argument of a test without brackets. -/
def startsTestArgument : Token → Bool
  | .name n => n != "and" && n != "or" && n != "else" && n != "is"
  | .text _ | .whole _ | .float _ => true
  | .symbol s => s == .plus || s == .minus || s == .bracketOpen || s == .braceOpen
  | _ => false

/-- A name with parts between points. -/
def dottedName : Parse String := do
  go (← get).bound (← identifier)
where
  go : Nat → String → Parse String
    | 0, found => pure found
    | bound + 1, found => do
      if ← skipSymbol .dot then go bound (found ++ "." ++ (← identifier)) else pure found

/-- A value with what stands behind it. -/
def suffixed (primary inner value : Parse Expr) : Parse Expr := do
  let line ← peekLine
  let e ← signed primary (← get).bound
  postfixes inner value (← get).bound line e

/-- Filters and tests behind a value. -/
def filters (primary inner value : Parse Expr) : Nat → Expr → Parse Expr
  | 0, e => pure e
  | bound + 1, e => do
    match ← peek with
    | some (.symbol .pipe) =>
      let _ ← next
      let line ← peekLine
      let n ← dottedName
      let args ← optionalArguments inner value
      filters primary inner value bound
        (.filter (Expr.lastOf line (e :: Argument.parts args)) n (some e) args)
    | some (.name "is") =>
      let _ ← next
      let negated ← skipWord "not"
      let line ← peekLine
      let n ← dottedName
      let args ← if ← nextIsSymbol .parenOpen then arguments inner value
        else if ← nextIs startsTestArgument then
          pure [Argument.positional (← suffixed primary inner value)]
        else pure []
      let found := Expr.test (Expr.lastOf line (e :: Argument.parts args)) n e args
      filters primary inner value bound (if negated then .not found else found)
    | _ => pure e

/-- A value with its filters and tests. -/
def operand (primary inner value : Parse Expr) : Parse Expr := do
  let e ← suffixed primary inner value
  filters primary inner value (← get).bound e

/-- Everything but the choice between two values. -/
def disjunction (operand : Parse Expr) : Parse Expr :=
  joined "or" .either <| joined "and" .both <| negations <| comparisons <| sums <| joins <|
    products <| powers operand

/-- Texts that follow each other are one text. -/
def moreText (found : String) : Nat → Parse String
  | 0 => pure found
  | bound + 1 => do
    match ← peek with
    | some (.text s) =>
      let _ ← next
      moreText (found ++ s) bound
    | _ => pure found

/-- A list behind its opening bracket. -/
def listOf (inner : Parse Expr) (line : Nat) (close : Symbol) : Parse Expr := do
  let items ← commaList close "`,`" inner
  return .list (Expr.lastOf line items) items

def mapEntry (inner : Parse Expr) : Parse Entry := do
  let key ← inner
  expectSymbol .colon "`:`"
  return .mk key (← inner)

/-- A map behind its opening bracket. -/
def mapOf (inner : Parse Expr) (line : Nat) : Parse Expr := do
  let entries ← commaList .braceClose "`,`" (mapEntry inner)
  let parts := entries.flatMap fun | .mk key value => [key, value]
  return .map (Expr.lastOf line parts) entries

/-- What stands in round brackets: a value, or a list if there is a comma. -/
def bracketed (inner : Parse Expr) (line : Nat) : Parse Expr := do
  if ← skipSymbol .parenClose then return .list line []
  let e ← inner
  if ← skipSymbol .comma then
    if ← skipSymbol .parenClose then return .list (Expr.lastOf line [e]) [e]
    let more ← commaList .parenClose "`,`" inner
    return .list (Expr.lastOf line (e :: more)) (e :: more)
  else
    expectSymbol .parenClose "`)`"
    return e

/-- The words that stand for values. -/
def wordLiteral? (w : String) : Option Literal :=
  if w == "true" || w == "True" then some (.bool true)
  else if w == "false" || w == "False" then some (.bool false)
  else if w == "none" || w == "None" then some .none
  else none

/-- A value on its own. -/
def primary (inner : Parse Expr) : Parse Expr := do
  let line ← peekLine
  match ← next with
  | some (.name n) =>
    match wordLiteral? n with
    | some l => return .literal line l
    | none => return .name line n
  | some (.text s) => return .literal line (.text (← moreText s (← get).bound))
  | some (.whole n) => return .literal line (.int n)
  | some (.float x) => return .literal line (.float x)
  | some (.symbol .parenOpen) => bracketed inner line
  | some (.symbol .bracketOpen) => listOf inner line .bracketClose
  | some (.symbol .braceOpen) => mapOf inner line
  | some t => refuse s!"unexpected {t.describe}"
  | none => unexpected none "expression"

/-- How deep expressions and statements can be nested. -/
def depthLimit : Nat := 150

/-- A choice between values, or a value. -/
def chosen (operand : Parse Expr) : Parse Expr := fun c =>
  choices operand c.bound c

/-- An expression without a choice, given how much deeper it may go. A value in brackets goes
deeper by two, and arguments and subscripts by one. -/
def disjunctionAt : Nat → Parse Expr
  | 0 => fun c => disjunction tooDeep c
  | 1 => fun c =>
    disjunction (operand (primary tooDeep) (chosen (disjunctionAt 0)) (disjunctionAt 0)) c
  | depth + 2 => fun c =>
    disjunction (operand (primary (chosen (disjunctionAt depth)))
      (chosen (disjunctionAt (depth + 1))) (disjunctionAt (depth + 1))) c

/-- An expression, given how much deeper it may go. -/
def expr : Nat → Parse Expr
  | 0 => tooDeep
  | depth + 1 => chosen (disjunctionAt depth)

end ExprGrammar

end FormLetter.Template
