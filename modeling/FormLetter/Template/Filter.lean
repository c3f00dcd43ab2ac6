import FormLetter.Template.Filter.Items
import FormLetter.Template.Filter.Number
import FormLetter.Template.Filter.Text

/-!
Filters and tests by name. Some filters work on their own; others are told which filter or test to
apply to items, or ask whether escaping is on. A filter that applies filters to items passes on
fewer arguments than it got, so the number of arguments bounds how deep filters can be nested in one
application. The tests are questions about a value that are answered by yes or no.
-/
namespace FormLetter.Template.Filter

/-- The filters that work on their own. -/
def independent : List (String × Callee) :=
  onText ++ onNumber ++ onItems

/-- The filters that apply a filter or a test to items, or that depend on escaping. -/
def dependent : List String :=
  ["map", "select", "reject", "selectattr", "rejectattr", "join"]

def isKnown (name : String) : Bool :=
  dependent.contains name || independent.any (·.1 == name)

end FormLetter.Template.Filter

namespace FormLetter.Template.Test

/-- A question about the kind of a value. -/
def ofValue (p : Value → Bool) : Callee :=
  Take.all do return .bool (p (← Take.value))

/-- A comparison with another value. -/
def ofPair (p : Value → Value → Bool) : Callee :=
  Take.all do
    let v ← Take.value
    return .bool (p v (← Take.value))

/-- The answer of an operator whose left side is the value. -/
def ofOperator (op : Operator) : Callee :=
  Take.all do
    let v ← Take.value
    Take.last (op.apply v)

/-- A whole number that a condition holds for. -/
def ofWhole (p : Int → Bool) : Callee :=
  ofValue fun v => match v.int128? with
    | some n => p n
    | none => false

/-- A comparison of the texts of two values. -/
def ofTexts (p : List Char → List Char → Bool) : Callee :=
  Take.all do
    let cs ← Take.chars
    return .bool (p cs (← Take.chars))

/-- A question about all characters of a text. -/
def ofChars (p : Char → Bool) : Callee :=
  Take.all do return .bool ((← Take.as Value.asString).toList.all p)

/-- A question about a name. -/
def ofName (p : String → Bool) : Callee :=
  Take.all do return .bool (p (← Take.as Value.asString))

def isDivisible (v divisor : Value) : Bool :=
  match Pairing.of? false v divisor with
  | some (.ints a b) => b != 0 && a % b == 0
  | some (.floats x y) => Number.remainder x y == 0.0
  | _ => false

def isInteger : Value → Bool
  | .int .. => true
  | _ => false

/-- Values that are equal and of one kind; a whole number is no double. -/
def isSameAs (a b : Value) : Bool :=
  isInteger a == isInteger b && a.kind == b.kind && a.same b

def byKind : List (String × Callee) :=
  [("defined", ofValue (!·.isUndefined)), ("undefined", ofValue Value.isUndefined),
   ("none", ofValue Value.isNone), ("safe", ofValue Value.isSafe),
   ("escaped", ofValue Value.isSafe), ("number", ofValue (·.kind == .number)),
   ("integer", ofValue isInteger), ("int", ofValue isInteger), ("float", ofValue Value.isFloat),
   ("string", ofValue (·.kind == .string)), ("boolean", ofValue (·.kind == .bool)),
   ("sequence", ofValue (·.kind == .sequence)), ("iterable", ofValue (·.items?.isSome)),
   ("mapping", ofValue (·.kind == .map)),
   ("true", ofValue fun v => v.kind == .bool && v.isTrue),
   ("false", ofValue fun v => v.kind == .bool && !v.isTrue)]

def byContent : List (String × Callee) :=
  [("odd", ofWhole (· % 2 != 0)), ("even", ofWhole (· % 2 == 0)),
   ("divisibleby", ofPair isDivisible), ("lower", ofChars Text.isLowerCase),
   ("upper", ofChars Text.isUpperCase),
   ("startingwith", ofTexts fun cs start => start.isPrefixOf cs),
   ("endingwith", ofTexts fun cs stop => stop.isSuffixOf cs), ("sameas", ofPair isSameAs)]

def byOrder : List (String × Callee) :=
  [("eq", ofOperator .equal), ("equalto", ofOperator .equal), ("==", ofOperator .equal),
   ("ne", ofOperator .notEqual), ("!=", ofOperator .notEqual), ("lt", ofOperator .less),
   ("lessthan", ofOperator .less), ("<", ofOperator .less), ("le", ofOperator .lessEqual),
   ("<=", ofOperator .lessEqual), ("gt", ofOperator .greater),
   ("greaterthan", ofOperator .greater), (">", ofOperator .greater),
   ("ge", ofOperator .greaterEqual), (">=", ofOperator .greaterEqual), ("in", ofOperator .within)]

/-- The tests that do not ask about tests. -/
def onValues : List (String × Callee) :=
  byKind ++ byContent ++ byOrder ++ [("filter", ofName Filter.isKnown)]

/-- The test of that name. -/
def find? (name : String) : Option Callee :=
  if name == "test" then
    some (ofName fun n => n == "test" || onValues.any (·.1 == n))
  else onValues.lookup name

/-- Applies the test of that name to its arguments. -/
def apply (name : String) : Callee := fun arguments =>
  match find? name with
  | some test => (test arguments).map fun v => .bool v.isTrue
  | none => .error (.of .unknownTest s!"test {name} is unknown")

end FormLetter.Template.Test

namespace FormLetter.Template.Filter

/-- The items for which a test, or their truth, has the answer that is wanted; the test looks at
the items themselves or at what a path leads to. -/
def choose (wanted : Bool) (byPath : Bool) : Callee :=
  Take.all do
    let v ← Take.value
    let path ← if byPath then some <$> Take.text else pure none
    let name ← Take.optional Value.asText
    let more ← Take.rest
    let test ← match name with
      | none => pure none
      | some n =>
        match Test.find? n with
        | some test => pure (some test)
        | none => throw (.plain .unknownTest)
    let items ← v.asItems
    let chosen ← items.filterM fun item => do
      let tested ← match path with
        | some p => item.path p
        | none => pure item
      let answer ← match test with
        | some test => test (tested :: more)
        | none => pure tested
      return answer.isTrue == wanted
    return .list chosen

/-- What a path or key leads to from every item, with a stand-in for what is missing. -/
def mapAttribute (key : Value) (other : Value) (items : List Value) : Except Error Value := do
  let found ← items.mapM fun item =>
    match item.select key, other with
    | .error e, .undefined => .error e
    | .error _, other | .ok .undefined, other => .ok other
    | .ok v, _ => .ok v
  return .list found

/-- An attribute of every item, or a filter on every item. -/
def map (call : String → Callee) : Callee :=
  Take.all do
    let v ← Take.value
    let named ← Take.named
    let more ← Take.rest
    match ← Named.optional named "attribute" pure with
    | some key =>
      if !more.isEmpty then throw (.plain .tooManyArguments)
      let other := (Named.get? named "default").getD .undefined
      let found ← mapAttribute key other (← v.asItems)
      Named.only named ["attribute", "default"]
      return found
    | none =>
      match more with
      | [] => throw (.of .invalidOperation "filter name is required")
      | .text name _ :: arguments =>
        if !isKnown name then throw (.plain .unknownFilter)
        return .list (← (← v.asItems).mapM fun item => call name (item :: arguments))
      | _ :: _ => throw (.of .invalidOperation "filter name must be a string")

/-- Applies a filter of some name. -/
def applyAt (escaping : Bool) : Nat → String → Callee
  | 0, _ => fun _ => .error (.plain .missingArgument)
  | bound + 1, name =>
    match name with
    | "map" => map (applyAt escaping bound)
    | "join" => join escaping
    | "select" => choose true false
    | "reject" => choose false false
    | "selectattr" => choose true true
    | "rejectattr" => choose false true
    | name =>
      match independent.lookup name with
      | some filter => filter
      | none => fun _ => .error (.of .unknownFilter s!"filter {name} is unknown")

/-- Applies the filter of that name to its arguments. -/
def apply (escaping : Bool) (name : String) : Callee := fun arguments =>
  applyAt escaping (arguments.length + 1) name arguments

end FormLetter.Template.Filter
