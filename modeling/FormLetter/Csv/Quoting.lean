/-!
Strict placement of quotes. A quote may open a field, close it, or stand doubled inside a quoted
field; the check reports the first quote that does none of these, or the quoted field that never
ends, each with its line.
-/
namespace FormLetter.Csv.Quoting

inductive State where
  /-- In front of the first character of a field. -/
  | fieldStart
  /-- Inside a field that does not start with a quote. -/
  | bare
  | quoted
  /-- Right behind a quote of a quoted field. -/
  | quoteInQuoted
  deriving DecidableEq, Repr

inductive Fault where
  | bareQuote
  | extraneousQuote
  | unterminated
  deriving DecidableEq, Repr

def Fault.message : Fault → String
  | .bareQuote => "bare \" in non-quoted field"
  | .extraneousQuote => "extraneous \" in quoted field"
  | .unterminated => "unterminated quoted field"

/-- Broken quoting and the line it is reported for. -/
structure Malformed where
  line : Nat
  fault : Fault
  deriving DecidableEq, Repr

/-- One character. -/
def step (separator : Char) : State → Char → Except Fault State
  | .fieldStart, c =>
    if c = '"' then .ok .quoted
    else if c = separator ∨ c = '\n' then .ok .fieldStart
    else .ok .bare
  | .bare, c =>
    if c = '"' then .error .bareQuote
    else if c = separator ∨ c = '\n' then .ok .fieldStart
    else .ok .bare
  | .quoted, c => if c = '"' then .ok .quoteInQuoted else .ok .quoted
  | .quoteInQuoted, c =>
    if c = '"' then .ok .quoted
    else if c = separator ∨ c = '\n' then .ok .fieldStart
    else if c = '\r' then .ok .bare
    else .error .extraneousQuote

/-- The line after a character. -/
def lineAfter (line : Nat) (c : Char) : Nat :=
  if c = '\n' then line + 1 else line

/-- Checks the rest of a text; `opened` is the line of the last opening quote. -/
def checkFrom (separator : Char) (state : State) (line opened : Nat) :
    List Char → Except Malformed Unit
  | [] => if state = .quoted then .error ⟨opened, .unterminated⟩ else .ok ()
  | c :: rest =>
    match step separator state c with
    | .error fault => .error ⟨line, fault⟩
    | .ok next =>
      let opened := if state = .fieldStart ∧ c = '"' then line else opened
      checkFrom separator next (lineAfter line c) opened rest

/-- Checks that every quote is well placed. -/
def check (separator : Char) (text : List Char) : Except Malformed Unit :=
  checkFrom separator .fieldStart 1 1 text

end FormLetter.Csv.Quoting
