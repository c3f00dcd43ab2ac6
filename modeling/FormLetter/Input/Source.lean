import FormLetter.Files.Tree
import FormLetter.Input.Error
import FormLetter.Text.Decoding

/-!
Sources of text. One command line value stands for standard input, for a file, or for the content
itself; which one is settled before anything is read.
-/
namespace FormLetter

/-- The value that names standard input or output. -/
def stdioName : String := "-"

inductive Source where
  | stdin
  | path (path : String)
  | literal (content : String)
  deriving DecidableEq, Repr

/-- Standard input: its bytes, or the failure that reading it meets. -/
abbrev Stdin := Except IoFault Bytes

namespace Source

/-- The faults that mean that a value names nothing. -/
def isMissing : IoFault → Bool
  | .noSuchEntry | .nullInPath | .nameTooLong => true
  | _ => false

/-- Empty or a dash is standard input, the name of an existing entry is a path, and a value that
names nothing is the content itself. -/
def classify (files : FileTree) (raw : String) : Except InputError Source :=
  if raw = "" ∨ raw = stdioName then .ok .stdin
  else match files.locate raw with
    | .ok _ => .ok (.path raw)
    | .error fault =>
      if isMissing fault then .ok (.literal raw) else .error (.sourceUnavailable raw fault)

def isStdin : Source → Bool
  | .stdin => true
  | _ => false

/-- How messages name the source. -/
def display : Source → String
  | .stdin => "stdin"
  | .path p => p
  | .literal _ => "literal content"

/-- The text of a source. Bytes are decoded; literal content is text already. -/
def resolve (files : FileTree) (stdin : Stdin) : Source → Except InputError String
  | .literal content => .ok content
  | .stdin =>
    match stdin with
    | .ok bytes => .ok (Text.decodeText bytes)
    | .error fault => .error (.stdinFailed fault)
  | .path p =>
    match files.read p with
    | .ok bytes => .ok (Text.decodeText bytes)
    | .error fault => .error (.sourceUnavailable p fault)

end Source

end FormLetter
