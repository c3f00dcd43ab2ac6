import FormLetter.Decimal.Integer
import FormLetter.Files.Path

/-!
Errors of the template language, and the error that rendering reports.
-/
namespace FormLetter

namespace Template

inductive ErrorKind where
  | notPrimitive
  | notKey
  | invalidOperation
  | badGrammar
  | templateNotFound
  | tooManyArguments
  | missingArgument
  | unknownFilter
  | unknownTest
  | unknownFunction
  | unknownMethod
  | unknownBlock
  | badEscape
  | undefinedValue
  | badSerialization
  | cannotDeserialize
  | badInclude
  | badBlock
  | cannotUnpack
  | writeFailure
  deriving DecidableEq, Repr

def ErrorKind.text : ErrorKind → String
  | .notPrimitive => "not a primitive"
  | .notKey => "not a key type"
  | .invalidOperation => "invalid operation"
  | .badGrammar => "syntax error"
  | .templateNotFound => "template not found"
  | .tooManyArguments => "too many arguments"
  | .missingArgument => "missing argument"
  | .unknownFilter => "unknown filter"
  | .unknownTest => "unknown test"
  | .unknownFunction => "unknown function"
  | .unknownMethod => "unknown method"
  | .unknownBlock => "unknown block"
  | .badEscape => "bad string escape"
  | .undefinedValue => "undefined value"
  | .badSerialization => "could not serialize to value"
  | .cannotDeserialize => "cannot deserialize"
  | .badInclude => "could not render include"
  | .badBlock => "could not render block"
  | .cannotUnpack => "cannot unpack"
  | .writeFailure => "failed to write output"

/-- A template and a line in it. -/
structure Place where
  template : String
  line : Nat
  deriving DecidableEq, Repr

/-- An error while a template is compiled or executed. -/
structure Error where
  kind : ErrorKind
  detail : Option String
  place : Option Place
  deriving DecidableEq, Repr

namespace Error

/-- An error without a place. -/
def of (kind : ErrorKind) (detail : String) : Error :=
  ⟨kind, some detail, none⟩

/-- An error that its kind says all about. -/
def plain (kind : ErrorKind) : Error :=
  ⟨kind, none, none⟩

/-- Gives an error its place unless it has one. -/
def within (e : Error) (template : String) (line : Nat) : Error :=
  match e.place with
  | some _ => e
  | none => { e with place := some ⟨template, line⟩ }

def message (e : Error) : String :=
  let what := match e.detail with
    | some d => s!"{e.kind.text}: {d}"
    | none => e.kind.text
  match e.place with
  | some p => s!"{what} (in {p.template}:{Decimal.ofNat p.line})"
  | none => what

end Error

end Template

/-- Why a template could not be compiled or executed. -/
inductive RenderError where
  /-- The source breaks the grammar. -/
  | badGrammar (text : String)
  /-- A filter, test, function or method that does not exist. -/
  | unknownName (text : String)
  | templateNotFound (text : String)
  | serialization (text : String)
  /-- The output could not be written. -/
  | io (cause : IoFault)
  | operation (text : String)
  deriving DecidableEq, Repr

namespace RenderError

/-- The error was found while the source was compiled. -/
def isBadGrammar : RenderError → Bool
  | .badGrammar _ => true
  | _ => false

def message : RenderError → String
  | .badGrammar text | .unknownName text | .operation text => text
  | .templateNotFound text => s!"template not found: {text}"
  | .serialization text => s!"serialization error: {text}"
  | .io cause => s!"write output: {cause.message}"

def causes : RenderError → List String
  | .io cause => [cause.message]
  | _ => []

/-- The kind of a template error decides the variant; its whole message is kept. -/
def ofTemplate (e : Template.Error) : RenderError :=
  match e.kind with
  | .templateNotFound => .templateNotFound e.message
  | .badGrammar | .badEscape => .badGrammar e.message
  | .unknownTest | .unknownFunction | .unknownFilter | .unknownMethod => .unknownName e.message
  | .badSerialization => .serialization e.message
  | .writeFailure => .io (.stopped e.message)
  | _ => .operation e.message

end RenderError

end FormLetter
