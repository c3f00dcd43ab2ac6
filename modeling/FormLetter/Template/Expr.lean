/-!
Expressions of the template language. Every node keeps the line at which its failure is reported:
the line of the part of it that was read last.
-/
namespace FormLetter.Template

inductive Literal where
  | none
  | bool (b : Bool)
  | int (n : Nat)
  | float (x : Float)
  | text (s : String)

/-- Operators whose two sides are both evaluated. -/
inductive Operator where
  | equal
  | notEqual
  | less
  | lessEqual
  | greater
  | greaterEqual
  | add
  | subtract
  | multiply
  | divide
  | floorDivide
  | modulo
  | power
  | concat
  | within
  deriving DecidableEq, Repr

mutual

inductive Expr where
  | literal (line : Nat) (l : Literal)
  | name (line : Nat) (n : String)
  | list (line : Nat) (items : List Expr)
  | map (line : Nat) (entries : List Entry)
  | negate (line : Nat) (e : Expr)
  | not (e : Expr)
  | both (left right : Expr)
  | either (left right : Expr)
  | operate (line : Nat) (op : Operator) (left right : Expr)
  /-- Comparisons in a row, each of which has to hold of its neighbours. -/
  | chain (first : Expr) (links : List Link)
  /-- The value of `yes` or of `no`, which may be missing. -/
  | choose (condition yes : Expr) (no : Option Expr)
  | attribute (line : Nat) (e : Expr) (name : String)
  | item (line : Nat) (e key : Expr)
  | slice (line : Nat) (e : Expr) (start stop step : Option Expr)
  | call (line : Nat) (callee : Expr) (arguments : List Argument)
  /-- A filter on an expression, or on captured text if there is none. -/
  | filter (line : Nat) (name : String) (e : Option Expr) (arguments : List Argument)
  | test (line : Nat) (name : String) (e : Expr) (arguments : List Argument)

inductive Entry where
  | mk (key value : Expr)

/-- A comparison with what stands on its left; `negated` turns its answer around. -/
inductive Link where
  | mk (line : Nat) (op : Operator) (negated : Bool) (right : Expr)

inductive Argument where
  | positional (e : Expr)
  /-- The items of a list as arguments. -/
  | spread (e : Expr)
  | named (name : String) (e : Expr)
  /-- The entries of a map as named arguments. -/
  | spreadNamed (e : Expr)

end

namespace Expr

/-- What messages call the expression. -/
def describe : Expr → String
  | .name .. => "variable"
  | .literal .. => "constant"
  | .call .. => "call"
  | .list .. => "list literal"
  | .map .. => "map literal"
  | .test .. => "test expression"
  | .filter .. => "filter expression"
  | _ => "expression"

def isLiteral : Expr → Bool
  | .literal .. => true
  | _ => false

/-- The filters whose value can be one that was there before. -/
def choosers : List String :=
  ["first", "last", "min", "max", "attr", "default", "d"]

/-- The value is made by the expression, so it is the same as no other. -/
def makesValue : Expr → Bool
  | .list .. | .map .. | .slice .. | .operate .. | .call .. => true
  | .filter _ n .. => !choosers.contains n
  | _ => false

end Expr

def Entry.isLiteral : Entry → Bool
  | .mk key value => key.isLiteral && value.isLiteral

def Link.line : Link → Nat
  | .mk line .. => line

namespace Expr

/-- The line of the part read last. A list or map of literals counts as part of what surrounds
it and has none. -/
def lastLine? : Expr → Option Nat
  | .literal line _ | .name line _ | .operate line .. | .attribute line .. | .item line ..
  | .slice line .. | .call line .. | .filter line .. | .test line .. => some line
  | .list line items => if items.all isLiteral then none else some line
  | .map line entries => if entries.all Entry.isLiteral then none else some line
  | .negate line e => some (e.lastLine?.getD line)
  | .not e => e.lastLine?
  | .chain first links => (links.getLast?.map Link.line).or first.lastLine?
  | .both left right | .either left right => right.lastLine?.or left.lastLine?
  | .choose condition yes none => yes.lastLine?.or condition.lastLine?
  | .choose condition yes (some no) => (no.lastLine?.or yes.lastLine?).or condition.lastLine?

/-- The line of the last of some parts that has one. -/
def lastOf (line : Nat) (parts : List Expr) : Nat :=
  parts.foldl (fun line e => e.lastLine?.getD line) line

end Expr

namespace Argument

def value : Argument → Expr
  | .positional e | .spread e | .named _ e | .spreadNamed e => e

/-- The parts of arguments in the order of their lines. Named arguments that are all literals
have none. -/
def parts (arguments : List Argument) : List Expr :=
  let isNamed : Argument → Bool
    | .named .. | .spreadNamed .. => true
    | _ => false
  let isConstant : Argument → Bool
    | .named _ e => e.isLiteral
    | _ => false
  let plain := arguments.filter fun a => !isNamed a
  let named := arguments.filter isNamed
  (plain ++ if named.all isConstant then [] else named).map value

end Argument

end FormLetter.Template
