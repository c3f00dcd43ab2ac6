import FormLetter.Template.Token.Literal
import FormLetter.Text.Blank

/-!
Cutting a template into tokens. Text stands for itself up to the next opening mark; between marks
blanks separate tokens, and a closing mark counts only while no bracket is open.
-/
namespace FormLetter.Template

/-- Why a template cannot be cut into tokens. A fault without a line is placed at the token that
was read before it. -/
structure LexFault where
  kind : ErrorKind
  detail : Option String
  line : Option Nat
  deriving DecidableEq, Repr

/-- The tokens of a template up to its end, or up to the fault that ends them. -/
structure TokenStream where
  tokens : List Located
  fault : Option LexFault

namespace TokenStream

def done : TokenStream := ⟨[], none⟩

def push (t : Token) (line : Nat) (s : TokenStream) : TokenStream :=
  { s with tokens := ⟨t, line⟩ :: s.tokens }

def broken (detail : String) (line : Nat) : TokenStream :=
  ⟨[], some ⟨.badGrammar, some detail, some line⟩⟩

end TokenStream

namespace Lexer

/-- What an opening mark opens. -/
inductive Opening where
  | variable
  | block
  | comment
  deriving DecidableEq, Repr

def Opening.ofChar? (c : Char) : Option Opening :=
  if c == '\x7b' then some .variable
  else if c == '%' then some .block
  else if c == '#' then some .comment
  else none

/-- The text in front of the first opening mark, the mark, and what follows it. -/
def findOpening (front : List Char) : List Char → List Char × Option (Opening × List Char)
  | [] => (front.reverse, none)
  | [c] => ((c :: front).reverse, none)
  | c :: d :: rest =>
    if c == '\x7b' then
      match Opening.ofChar? d with
      | some o => (front.reverse, some (o, rest))
      | none => findOpening (c :: front) (d :: rest)
    else findOpening (c :: front) (d :: rest)

/-- How a mark treats the blanks beside it. -/
inductive Trim where
  | keep
  | remove
  deriving DecidableEq, Repr

/-- The sign behind an opening mark, or in front of a closing one. -/
def trimSign : List Char → Trim × List Char
  | '-' :: rest => (.remove, rest)
  | '+' :: rest => (.keep, rest)
  | rest => (.keep, rest)

def Trim.atStart (t : Trim) (cs : List Char) : List Char :=
  match t with
  | .keep => cs
  | .remove => Text.trimStartOf Text.isBlank cs

/-- What a mark removes from the start of the text behind it. -/
def Trim.removed (t : Trim) (cs : List Char) : List Char :=
  match t with
  | .keep => []
  | .remove => cs.takeWhile Text.isBlank

def Trim.atEnd (t : Trim) (cs : List Char) : List Char :=
  match t with
  | .keep => cs
  | .remove => Text.trimEndOf Text.isBlank cs

/-- Lines are numbered up to this one; all behind it are counted as it. -/
def lastLine : Nat := 65535

/-- The line behind some line breaks. -/
def lineAfter (line : Nat) (breaks : Nat) : Nat :=
  min lastLine (line + breaks)

/-- The line behind some text. -/
def linesAfter (line : Nat) (cs : List Char) : Nat :=
  lineAfter line (cs.count '\n')

/-- The end of a block that is a single word. -/
structure WordEnd where
  /-- How its closing mark trims. -/
  trim : Trim
  /-- The line breaks between its marks. -/
  breaks : Nat
  /-- What follows it. -/
  rest : List Char

/-- The end of a block that is a single word, given what follows its opening mark. -/
def wordBlock? (word : String) (cs : List Char) : Option WordEnd :=
  let before := cs.takeWhile Text.isPlainBlank
  let cs := Text.trimStartOf Text.isPlainBlank cs
  if word.toList.isPrefixOf cs then
    let cs := cs.drop word.length
    let behind := cs.takeWhile Text.isPlainBlank
    match trimSign (Text.trimStartOf Text.isPlainBlank cs) with
    | (t, '%' :: '\x7d' :: rest) => some ⟨t, before.count '\n' + behind.count '\n', rest⟩
    | _ => none
  else none

/-- The content of a block that is not read, given what follows its opening: the content, how the
block that closes it trims in front of itself, and its end. -/
def rawContent? (front : List Char) : List Char → Option (List Char × Trim × WordEnd)
  | [] => none
  | c :: rest =>
    let closing := match c, rest with
      | '\x7b', '%' :: more =>
        let (before, more) := trimSign more
        (wordBlock? "endraw" more).map fun close => (front.reverse, before, close)
      | _, _ => none
    match closing with
    | some found => some found
    | none => rawContent? (c :: front) rest

/-- The comment up to its closing mark, and what follows. -/
def commentEnd? (front : List Char) : List Char → Option (List Char × List Char)
  | '#' :: '\x7d' :: rest => some (front.reverse, rest)
  | c :: rest => commentEnd? (c :: front) rest
  | [] => none

def isNameStart (c : Char) : Bool := c.isAlpha || c == '_'

def isNameChar (c : Char) : Bool := c.isAlphanum || c == '_'

/-- Where the lexer stands: in text, whose first blanks may have to go, or between marks. -/
inductive Mode where
  | text (trim : Trim)
  | variable
  | block
  deriving DecidableEq, Repr

/-- The closing mark of a mode at the front of a text, how it trims, and what follows it. -/
def closing? (mode : Mode) (cs : List Char) : Option (Token × Trim × List Char) :=
  let (t, cs) := trimSign cs
  match mode, cs with
  | .variable, '\x7d' :: '\x7d' :: rest => some (.variableEnd, t, rest)
  | .block, '%' :: '\x7d' :: rest => some (.blockEnd, t, rest)
  | _, _ => none

/-- The token at the front of a text that starts with none of the blanks, the line breaks within
it, and what follows it. -/
def token (line : Nat) (cs : List Char) : Except LexFault (Token × Nat × List Char) :=
  let refuse (detail : String) : Except LexFault (Token × Nat × List Char) :=
    .error ⟨.badGrammar, some detail, some line⟩
  let pair := match cs with
    | a :: b :: rest => (Symbol.ofPair? a b).map fun s => (Token.symbol s, 0, rest)
    | _ => none
  match pair, cs with
  | some found, _ => .ok found
  | none, [] => refuse "unexpected character"
  | none, c :: rest =>
    match Symbol.ofChar? c with
    | some s => .ok (.symbol s, 0, rest)
    | none =>
      if c == '\'' || c == '"' then
        match Quotation.scan c [] false rest with
        | none => refuse "unexpected end of string"
        | some (content, escapes, rest) =>
          let breaks := content.count '\n'
          if escapes then
            match Quotation.unescape none content with
            | some text => .ok (.text (String.ofList text), breaks, rest)
            | none => .error ⟨.badEscape, none, none⟩
          else .ok (.text (String.ofList content), breaks, rest)
      else if c.isDigit then
        match Numeral.read cs with
        | .ok (t, rest) => .ok (t, 0, rest)
        | .error detail => refuse detail
      else if isNameStart c then
        .ok (.name (String.ofList (cs.takeWhile isNameChar)), 0, cs.dropWhile isNameChar)
      else refuse "unexpected character"

/-- A piece of text as a token; no text is none. -/
def pushData (cs : List Char) (line : Nat) (s : TokenStream) : TokenStream :=
  if cs.isEmpty then s else s.push (.data (String.ofList cs)) line

/-- The tokens of a text; `depth` is the number of open brackets. Every step but the last shortens
the text, so its length bounds the steps. -/
def lex (bound : Nat) (mode : Mode) (depth : Int) (line : Nat) (cs : List Char) : TokenStream :=
  match bound with
  | 0 => .done
  | bound + 1 =>
    match mode with
    | .text trim =>
      let kept := trim.atStart cs
      let line := linesAfter line (trim.removed cs)
      match findOpening [] kept with
      | (front, none) => pushData front line .done
      | (front, some (opening, rest)) =>
        let (trim, inside) := trimSign rest
        let here := linesAfter line front
        pushData (trim.atEnd front) line <|
          match opening with
          | .variable => (lex bound .variable depth here inside).push .variableStart here
          | .comment =>
            match commentEnd? [] inside with
            | none => .broken "unexpected end of comment" here
            | some (content, rest) =>
              let trim := if content.getLast? == some '-' then Trim.remove else .keep
              lex bound (.text trim) depth (linesAfter here content) rest
          | .block =>
            match wordBlock? "raw" inside with
            | none => (lex bound .block depth here inside).push .blockStart here
            | some first =>
              let start := lineAfter here first.breaks
              match rawContent? [] first.rest with
              | none => .broken "unexpected end of raw block" start
              | some (raw, before, close) =>
                let text := before.atEnd (first.trim.atStart raw)
                (lex bound (.text close.trim) depth
                  (lineAfter (linesAfter start raw) close.breaks) close.rest).push
                  (.data (String.ofList text)) start
    | mode =>
      let kept := Text.trimStartOf Text.isPlainBlank cs
      let line := linesAfter line (cs.takeWhile Text.isPlainBlank)
      if kept.isEmpty then .done
      else match if depth = 0 then closing? mode kept else none with
        | some (t, trim, rest) => (lex bound (.text trim) depth line rest).push t line
        | none =>
          match token line kept with
          | .error fault => ⟨[], some fault⟩
          | .ok (t, breaks, rest) =>
            let change := match t with
              | .symbol s => s.balance
              | _ => 0
            (lex bound mode (depth + change) (lineAfter line breaks) rest).push t line

/-- The tokens of a template. -/
def tokenize (source : String) : TokenStream :=
  let cs := source.toList
  lex (cs.length + 1) (.text .keep) 0 1 cs

end Lexer

end FormLetter.Template
