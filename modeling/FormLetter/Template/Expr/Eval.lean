import FormLetter.Template.Call
import FormLetter.Template.Filter
import FormLetter.Template.Value.Slice

/-!
The values of expressions. Parts are evaluated from left to right, named arguments behind all
others; a failure gets the line of the expression that it belongs to.
-/
namespace FormLetter.Template

namespace Eval

/-- A name that stands for nothing is undefined. -/
def nameValue (name : String) : Eval Value := do
  return ((← get).lookup? name).getD .undefined

/-- What stands under a name of a value. -/
def propertyOf (v : Value) (name : String) : Eval Value := do
  match v with
  | .cell _ | .loop _ => return ((← get).member? name v).getD .undefined
  | v => attempt (v.property name)

/-- What stands under a key or at a position of a value. -/
def itemOf (v key : Value) : Eval Value := do
  match v, key with
  | .cell _, .text name _ | .loop _, .text name _ =>
    return ((← get).member? name v).getD .undefined
  | .cell _, _ | .loop _, _ => return .undefined
  | v, key => attempt (v.item (← settled key))

/-- Calls a pure callee with values as they are now. -/
def callPure (callee : Callee) (arguments : List Value) : Eval Value := do
  attached (← attempt (callee (← settledAll arguments)))

/-- Applies a filter where escaping is as it is now. -/
def applyFilter (name : String) (arguments : List Value) : Eval Value := do
  callPure (Filter.apply (← get).escaping name) arguments

/-- Whether a value can be the same as another one, given that one of them was made just now. -/
def canBeSame (made : Bool) (arguments : List Value) : Bool :=
  match arguments with
  | [.cell m, .cell n] | [.loop m, .loop n] => m == n
  | v :: _ => !made || v.objectItems?.isNone
  | [] => true

/-- Applies a test; `made` says that one of its sides was made just now. -/
def applyTest (name : String) (made : Bool) (arguments : List Value) : Eval Value := do
  let found ← callPure (Test.apply name) arguments
  return if name == "sameas" && !canBeSame made arguments then .bool false else found

def operate (op : Operator) (a b : Value) : Eval Value := do
  attached (← attempt (op.apply (← settled a) (← settled b)))

/-- The value of a test, turned around on request. -/
def isTrue (v : Value) : Eval Bool := do
  return (← settled v).isTrue

/-- The value of an argument, before lists and maps are spread into more arguments. -/
inductive Given where
  | positional (v : Value)
  | spread (v : Value)
  | named (name : String) (v : Value)
  | spreadNamed (v : Value)

/-- The named arguments that a map spreads into. -/
def spreadNamed (v : Value) : Eval (List (String × Value)) := do
  match (← settled v).entries? with
  | some entries =>
    let m ← get
    return entries.filterMap fun (k, v) => k.text?.map (·, m.attached v)
  | none =>
    refuse .invalidOperation
      s!"attempted to apply keyword arguments from non map (got {v.kind.text})"

/-- Puts a named argument in place of an earlier one of that name. -/
def putNamed (named : List (String × Value)) (entry : String × Value) : List (String × Value) :=
  named.filter (·.1 != entry.1) ++ [entry]

/-- The arguments in order, with lists among them spread. -/
def spreadItems : List Given → Eval (List Value)
  | [] => return []
  | .positional v :: rest => return v :: (← spreadItems rest)
  | .spread v :: rest => do
    let vs ← attempt (← settled v).asItems
    return vs.map (← get).attached ++ (← spreadItems rest)
  | _ :: rest => spreadItems rest

/-- The arguments by name, with maps among them spread. -/
def spreadEntries (found : List (String × Value)) : List Given → Eval (List (String × Value))
  | [] => return found
  | .named n v :: rest => spreadEntries (putNamed found (n, v)) rest
  | .spreadNamed v :: rest => do spreadEntries ((← spreadNamed v).foldl putNamed found) rest
  | _ :: rest => spreadEntries found rest

/-- The arguments of a call: those in order, then those by name as one, if there can be any. Nothing
is spread before all have their values. -/
def gather (line : Nat) (hasNamed : Bool) (positional named : Eval (List Given)) :
    Eval (List Value) := do
  let vs ← positional
  let ns ← named
  locate line do
    let entries ← spreadEntries [] ns
    let vs ← spreadItems vs
    return if hasNamed then vs ++ [.named entries] else vs

/-- What a call calls. -/
inductive Called where
  | name (n : String)
  | block (n : String)
  | method (v : Value) (n : String)
  | value (v : Value)

/-- Calls what is to be called once its arguments are there. A block takes none. -/
def finishCall (run : Runner) (line : Nat) (called : Called) (arguments : Eval (List Value)) :
    Eval Value := do
  match called with
  | .block n => locate line do keptText (← capture (runBlock run n))
  | .name n =>
    let vs ← arguments
    locate line (callName run n vs)
  | .method v n =>
    let vs ← arguments
    locate line (callMethod run v n vs)
  | .value v =>
    let vs ← arguments
    locate line (callValue run v vs)

end Eval

/-- The argument is named, or a map of named ones. -/
def Argument.isNamed : Argument → Bool
  | .named .. | .spreadNamed _ => true
  | _ => false

/-- The argument is a list of arguments. -/
def Argument.isSpread : Argument → Bool
  | .spread _ => true
  | _ => false

open Eval

mutual

/-- The value of an expression; `input` is the text that a filter without an expression is applied
to. -/
def Expr.eval (run : Runner) (input : Value) : Expr → Eval Value
  | .literal _ l => pure (.ofLiteral l)
  | .name _ n => nameValue n
  | .list _ items => do return .list (← evalAll run input items)
  | .map _ entries => do return .map (← evalEntries run input [] entries)
  | .negate line e => do
    let v ← e.eval run input
    locate line do attempt (← settled v).negate
  | .not e => do return .bool !(← isTrue (← e.eval run input))
  | .both left right => do
    let v ← left.eval run input
    if ← isTrue v then right.eval run input else return v
  | .either left right => do
    let v ← left.eval run input
    if ← isTrue v then return v else right.eval run input
  | .operate line op left right => do
    let a ← left.eval run input
    let b ← right.eval run input
    locate line (operate op a b)
  | .chain first links => do
    let v ← first.eval run input
    evalLinks run input v links
  | .choose condition yes no => do
    if ← isTrue (← condition.eval run input) then yes.eval run input
    else evalOption run input .undefined no
  | .attribute line e name => do
    let v ← e.eval run input
    locate line (propertyOf v name)
  | .item line e key => do
    let v ← e.eval run input
    let k ← key.eval run input
    locate line (itemOf v k)
  | .slice line e start stop step => do
    let v ← e.eval run input
    let start ← evalOption run input .none start
    let stop ← evalOption run input .none stop
    let step ← evalOption run input .none step
    locate line do attached (← attempt ((← settled v).slice start stop step))
  | .call line callee arguments => do
    let called ← match callee with
      | .name _ n => pure (Called.name n)
      | .attribute _ (.name _ "self") n => pure (Called.block n)
      | .attribute _ e n => do pure (Called.method (← e.eval run input) n)
      | e => do pure (Called.value (← e.eval run input))
    finishCall run line called (gather line (arguments.any Argument.isNamed)
      (evalPositional run input arguments) (evalNamed run input arguments))
  | .filter line n e arguments => do
    let v ← evalOption run input input e
    let vs ← gather line (arguments.any Argument.isNamed) (evalPositional run input arguments)
      (evalNamed run input arguments)
    locate line (applyFilter n (v :: vs))
  | .test line n e arguments => do
    let v ← e.eval run input
    let vs ← gather line (arguments.any Argument.isNamed) (evalPositional run input arguments)
      (evalNamed run input arguments)
    let made := e.makesValue || arguments.any (·.value.makesValue)
    locate line (applyTest n made (v :: vs))

/-- Whether comparisons in a row hold, up to the first that does not. -/
def evalLinks (run : Runner) (input left : Value) : List Link → Eval Value
  | [] => return .bool true
  | .mk line op negated right :: rest => do
    let v ← right.eval run input
    let found ← locate line (operate op left v)
    if found.isTrue == negated then return .bool false else evalLinks run input v rest

def evalAll (run : Runner) (input : Value) : List Expr → Eval (List Value)
  | [] => pure []
  | e :: rest => do
    let v ← e.eval run input
    return v :: (← evalAll run input rest)

/-- The value of a part that may be missing. -/
def evalOption (run : Runner) (input missing : Value) : Option Expr → Eval Value
  | none => pure missing
  | some e => e.eval run input

def evalEntries (run : Runner) (input : Value) (found : List (Value × Value)) :
    List Entry → Eval (List (Value × Value))
  | [] => pure found
  | .mk key value :: rest => do
    let k ← key.eval run input
    let v ← value.eval run input
    evalEntries run input (Filter.insertEntry found k v) rest

/-- The values of the arguments in their order. -/
def evalPositional (run : Runner) (input : Value) : List Argument → Eval (List Given)
  | [] => pure []
  | .positional e :: rest => do
    let v ← e.eval run input
    return .positional v :: (← evalPositional run input rest)
  | .spread e :: rest => do
    let v ← e.eval run input
    return .spread v :: (← evalPositional run input rest)
  | _ :: rest => evalPositional run input rest

/-- The values of the arguments by name. -/
def evalNamed (run : Runner) (input : Value) : List Argument → Eval (List Given)
  | [] => pure []
  | .named n e :: rest => do
    let v ← e.eval run input
    return .named n v :: (← evalNamed run input rest)
  | .spreadNamed e :: rest => do
    let v ← e.eval run input
    return .spreadNamed v :: (← evalNamed run input rest)
  | _ :: rest => evalNamed run input rest

end

end FormLetter.Template
