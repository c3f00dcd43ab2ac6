import FormLetter.Csv.Table

/-!
The options of the command line and the values they take.
-/
namespace FormLetter.CommandLine

inductive Opt where
  | csv
  | template
  | out
  | counter
  | noheader
  | force
  | csvSep
  | help
  | version
  deriving DecidableEq, Repr

namespace Opt

/-- All options, in the order of the help text. -/
def all : List Opt :=
  [.csv, .template, .out, .counter, .noheader, .force, .csvSep, .help, .version]

/-- The options that set something for the run. -/
def settings : List Opt :=
  all.filter fun o => o != .help && o != .version

def long : Opt → String
  | .csv => "csv"
  | .template => "template"
  | .out => "out"
  | .counter => "counter"
  | .noheader => "noheader"
  | .force => "force"
  | .csvSep => "csv-sep"
  | .help => "help"
  | .version => "version"

def short? : Opt → Option Char
  | .csv => some 'i'
  | .template => some 't'
  | .out => some 'o'
  | .counter => some 'c'
  | .noheader => some 'n'
  | .force => some 'f'
  | .csvSep => none
  | .help => some 'h'
  | .version => some 'V'

/-- The name of the value, for options that take one. -/
def value? : Opt → Option String
  | .csv => some "CSV"
  | .template => some "TEMPLATE"
  | .out => some "OUT"
  | .counter => some "NAME"
  | .csvSep => some "CHAR"
  | _ => none

def takesValue (o : Opt) : Bool :=
  o.value?.isSome

/-- The value may look like an option. -/
def allowsHyphen : Opt → Bool
  | .csv | .template | .out => true
  | _ => false

/-- The option as messages show it. -/
def display (o : Opt) : String :=
  match o.value? with
  | some v => s!"--{o.long} <{v}>"
  | none => s!"--{o.long}"

def ofLong? (name : String) : Option Opt :=
  all.find? (·.long == name)

def ofShort? (c : Char) : Option Opt :=
  all.find? (·.short? == some c)

end Opt

/-- The values given on a command line. -/
structure Flags where
  csv : Option String
  template : Option String
  out : Option String
  counter : String
  noheader : Bool
  force : Bool
  csvSep : String
  deriving DecidableEq, Repr

namespace Flags

def default : Flags :=
  ⟨none, none, none, defaultCounter, false, false, ","⟩

def set (f : Flags) (o : Opt) (value : String) : Flags :=
  match o with
  | .csv => { f with csv := some value }
  | .template => { f with template := some value }
  | .out => { f with out := some value }
  | .counter => { f with counter := value }
  | .noheader => { f with noheader := true }
  | .force => { f with force := true }
  | .csvSep => { f with csvSep := value }
  | .help | .version => f

end Flags

end FormLetter.CommandLine
