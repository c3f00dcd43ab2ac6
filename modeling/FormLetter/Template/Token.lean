/-!
The tokens of a template: text that stands for itself, the marks around expressions and
statements, and what stands between the marks.
-/
namespace FormLetter.Template

inductive Symbol where
  | plus
  | minus
  | times
  | divide
  | floorDivide
  | power
  | modulo
  | dot
  | comma
  | colon
  | tilde
  | assign
  | pipe
  | equal
  | notEqual
  | greater
  | greaterEqual
  | less
  | lessEqual
  | bracketOpen
  | bracketClose
  | parenOpen
  | parenClose
  | braceOpen
  | braceClose
  deriving DecidableEq, Repr

namespace Symbol

/-- The symbol as it is written. -/
def text : Symbol → String
  | .plus => "+"
  | .minus => "-"
  | .times => "*"
  | .divide => "/"
  | .floorDivide => "//"
  | .power => "**"
  | .modulo => "%"
  | .dot => "."
  | .comma => ","
  | .colon => ":"
  | .tilde => "~"
  | .assign => "="
  | .pipe => "|"
  | .equal => "=="
  | .notEqual => "!="
  | .greater => ">"
  | .greaterEqual => ">="
  | .less => "<"
  | .lessEqual => "<="
  | .bracketOpen => "["
  | .bracketClose => "]"
  | .parenOpen => "("
  | .parenClose => ")"
  | .braceOpen => "\x7b"
  | .braceClose => "\x7d"

/-- The symbols of two characters. -/
def ofPair? (a b : Char) : Option Symbol :=
  if a == '/' && b == '/' then some .floorDivide
  else if a == '*' && b == '*' then some .power
  else if a == '=' && b == '=' then some .equal
  else if a == '!' && b == '=' then some .notEqual
  else if a == '>' && b == '=' then some .greaterEqual
  else if a == '<' && b == '=' then some .lessEqual
  else none

/-- The symbols of one character. -/
def ofChar? (c : Char) : Option Symbol :=
  if c == '+' then some .plus
  else if c == '-' then some .minus
  else if c == '*' then some .times
  else if c == '/' then some .divide
  else if c == '%' then some .modulo
  else if c == '.' then some .dot
  else if c == ',' then some .comma
  else if c == ':' then some .colon
  else if c == '~' then some .tilde
  else if c == '|' then some .pipe
  else if c == '=' then some .assign
  else if c == '>' then some .greater
  else if c == '<' then some .less
  else if c == '(' then some .parenOpen
  else if c == ')' then some .parenClose
  else if c == '[' then some .bracketOpen
  else if c == ']' then some .bracketClose
  else if c == '\x7b' then some .braceOpen
  else if c == '\x7d' then some .braceClose
  else none

/-- How many more brackets are open behind the symbol. -/
def balance : Symbol → Int
  | .parenOpen | .bracketOpen | .braceOpen => 1
  | .parenClose | .bracketClose | .braceClose => -1
  | _ => 0

end Symbol

inductive Token where
  /-- Text that stands for itself. -/
  | data (text : String)
  | variableStart
  | variableEnd
  | blockStart
  | blockEnd
  | name (n : String)
  | text (s : String)
  | whole (n : Nat)
  | float (x : Float)
  | symbol (s : Symbol)

/-- What messages call the token. -/
def Token.describe : Token → String
  | .data _ => "template-data"
  | .variableStart => "start of variable block"
  | .variableEnd => "end of variable block"
  | .blockStart => "start of block"
  | .blockEnd => "end of block"
  | .name _ => "identifier"
  | .text _ => "string"
  | .whole _ => "integer"
  | .float _ => "float"
  | .symbol s => "`" ++ s.text ++ "`"

/-- The token is that symbol. -/
def Token.isSymbol (t : Token) (s : Symbol) : Bool :=
  match t with
  | .symbol u => u == s
  | _ => false

/-- The token is that word. -/
def Token.isName (t : Token) (n : String) : Bool :=
  match t with
  | .name m => m == n
  | _ => false

/-- A token and the line it starts on. -/
structure Located where
  token : Token
  line : Nat

end FormLetter.Template
