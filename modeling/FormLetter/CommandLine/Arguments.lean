import FormLetter.CommandLine.Help
import FormLetter.Files.Path
import FormLetter.Text.Blank
import FormLetter.Text.Similarity

/-!
Reading the arguments. An option's value is settled when the next option, or the end, is reached,
so a missing or repeated value is reported there, and an unknown argument before it.
-/
namespace FormLetter.CommandLine

/-- Why arguments are not accepted; help and version end the reading in the same way. -/
inductive UsageError where
  | help
  | version
  /-- An argument that is no option; `given` names the options of the usage line. -/
  | unknownArgument (argument : String) (similar : Option Opt) (given : List Opt)
  | missingValue (o : Opt)
  | repeated (o : Opt)
  /-- A value for an option that takes none; `others` says that options came before it. -/
  | unexpectedValue (o : Opt) (value : String) (others : Bool)
  deriving DecidableEq, Repr

/-- The text of the report; `program` is the name the program was called by. -/
def UsageError.message (program : String) : UsageError → String
  | .help => helpText program
  | .version => versionText
  | .unknownArgument argument similar given =>
    let tip := match similar with
      | some o => s!"  tip: a similar argument exists: '--{o.long}'\n\n"
      | none => ""
    s!"error: unexpected argument '{argument}' found\n\n" ++ tip ++ usageWith program given ++
      "\n\n" ++ helpHint
  | .missingValue o =>
    s!"error: a value is required for '{o.display}' but none was supplied\n\n" ++ helpHint
  | .repeated o =>
    s!"error: the argument '{o.display}' cannot be used multiple times\n\n" ++
      usageLine program ++ "\n\n" ++ helpHint
  | .unexpectedValue o value others =>
    s!"error: unexpected value '{value}' for '{o.display}' found; no more were expected\n\n" ++
      (if others then usageBeside program o else usageWith program [o]) ++ "\n\n" ++ helpHint

/-- The report without its heading and the blanks behind it. -/
def UsageError.report (program : String) (e : UsageError) : String :=
  let cs := (e.message program).toList
  let heading := "error: ".toList
  let body := if heading.isPrefixOf cs then cs.drop heading.length else cs
  String.ofList (Text.trimEndOf Text.isBlank body)

/-- What has been read. -/
structure Progress where
  /-- The settled options with their values, in the order of the arguments. -/
  settled : List (Opt × String)
  /-- An option whose value is not settled yet, with the value if it has come. -/
  pending : Option (Opt × Option String)
  deriving Repr

namespace Progress

def start : Progress := ⟨[], none⟩

def has (p : Progress) (o : Opt) : Bool :=
  p.settled.any (·.1 == o)

/-- The settled options. -/
def given (p : Progress) : List Opt :=
  p.settled.map (·.1)

/-- Adds an option; one that was there already is taken back and refused. -/
def add (p : Progress) (o : Opt) (value : String) : Progress × Except UsageError Unit :=
  if p.has o then ({ p with settled := p.settled.filter (·.1 != o) }, .error (.repeated o))
  else ({ p with settled := p.settled ++ [(o, value)] }, .ok ())

/-- Settles the pending option. -/
def settle (p : Progress) : Progress × Except UsageError Unit :=
  match p.pending with
  | none => (p, .ok ())
  | some (o, none) => ({ p with pending := none }, .error (.missingValue o))
  | some (o, some value) => { p with pending := none }.add o value

/-- Settles the pending option and reads a complete one. -/
def react (p : Progress) (o : Opt) (value : String) : Except UsageError Progress :=
  match p.settle with
  | (_, .error e) => .error e
  | (p, .ok ()) =>
    match o with
    | .help => .error .help
    | .version => .error .version
    | _ =>
      match p.add o value with
      | (_, .error e) => .error e
      | (p, .ok ()) => .ok p

/-- Settles the pending option and opens one whose value is the next argument. -/
def openOption (p : Progress) (o : Opt) : Except UsageError Progress :=
  match p.settle with
  | (_, .error e) => .error e
  | (p, .ok ()) => .ok { p with pending := some (o, none) }

/-- The option that the next argument is a value of. -/
def awaiting (p : Progress) : Option Opt :=
  match p.pending with
  | some (o, none) => some o
  | _ => none

end Progress

/-- Adds an option to a list of options unless it is there. -/
def including (given : List Opt) (o : Opt) : List Opt :=
  if given.contains o then given else given ++ [o]

/-- A long option, with the value behind an equals sign if there is one. -/
def readLong (p : Progress) (name : String) (value : Option String) :
    Except UsageError Progress :=
  match Opt.ofLong? name with
  | some o =>
    match o.takesValue, value with
    | true, some v => p.react o v
    | true, none => p.openOption o
    | false, none => p.react o ""
    | false, some v => .error (.unexpectedValue o v !p.given.isEmpty)
  | none =>
    let given := p.settle.1.given
    let similar := (Text.Similarity.suggest? name.toList (Opt.all.map (·.long.toList))).bind
      fun n => Opt.ofLong? (String.ofList n)
    .error (.unknownArgument ("--" ++ name) similar
      (match similar with | some o => including given o | none => given))

/-- A cluster of short options. The first that takes a value has the rest of the cluster as its
value, without an equals sign in front. -/
def readShort (p : Progress) : List Char → Except UsageError Progress
  | [] => .ok p
  | c :: rest =>
    match Opt.ofShort? c with
    | none => .error (.unknownArgument (String.ofList ['-', c]) none [])
    | some o =>
      if o.takesValue then
        match rest with
        | [] => p.openOption o
        | '=' :: value => p.react o (String.ofList value)
        | value => p.react o (String.ofList value)
      else
        match p.react o "" with
        | .ok p => readShort p rest
        | .error e => .error e

/-- The name and the value of a long option. -/
def splitLong (cs : List Char) : String × Option String :=
  let name := cs.takeWhile (· != '=')
  match cs.dropWhile (· != '=') with
  | [] => (String.ofList name, none)
  | _ :: value => (String.ofList name, some (String.ofList value))

/-- One argument in front of any `--`; nothing means that the `--` is here. -/
def readArgument (p : Progress) (argument : String) : Except UsageError (Option Progress) :=
  let asValue : Except UsageError (Option Progress) :=
    match p.awaiting with
    | some o => .ok (some { p with pending := some (o, some argument) })
    | none => .error (.unknownArgument argument none [])
  let hyphenValue := match p.awaiting with
    | some o => o.allowsHyphen
    | none => false
  if hyphenValue then asValue
  else match argument.toList with
    | ['-', '-'] => .ok none
    | '-' :: '-' :: rest =>
      let (name, value) := splitLong rest
      (readLong p name value).map some
    | ['-'] => asValue
    | '-' :: rest => (readShort p rest).map some
    | _ => asValue

def readArguments (p : Progress) : List String → Except UsageError Progress
  | [] =>
    match p.settle with
    | (p, .ok ()) => .ok p
    | (_, .error e) => .error e
  | argument :: rest =>
    match readArgument p argument with
    | .error e => .error e
    | .ok (some p) => readArguments p rest
    | .ok none =>
      match rest with
      | next :: _ => .error (.unknownArgument next none [])
      | [] =>
        match p.settle with
        | (p, .ok ()) => .ok p
        | (_, .error e) => .error e

/-- The flags that arguments give. -/
def readFlags (arguments : List String) : Except UsageError Flags :=
  (readArguments .start arguments).map fun p =>
    p.settled.foldl (fun f (o, value) => f.set o value) Flags.default

/-- The name that usage lines show: the last name of the path the program was called by. -/
def calledName (path : String) : String :=
  let names := (splitSlashes path.toList).filter fun n => !n.isEmpty
  let named := match names with
    | [] => []
    | first :: rest => (if path.toList.head? == some '/' then [first].filter (· != ['.'])
        else [first]) ++ rest.filter (· != ['.'])
  match named.getLast? with
  | some n => if n == ['.'] || n == ['.', '.'] then programName else String.ofList n
  | none => programName

end FormLetter.CommandLine
