import FormLetter.Template.Argument
import FormLetter.Template.Value.Order
import FormLetter.Text.Search

/-!
The operators of expressions on two values. Whole numbers are computed exactly and refused beyond
128 bits; an operator that knows no sort in which its sides meet refuses both of them.
-/
namespace FormLetter.Template

namespace Operator

def symbol : Operator → String
  | .equal => "=="
  | .notEqual => "!="
  | .less => "<"
  | .lessEqual => "<="
  | .greater => ">"
  | .greaterEqual => ">="
  | .add => "+"
  | .subtract => "-"
  | .multiply => "*"
  | .divide => "/"
  | .floorDivide => "//"
  | .modulo => "%"
  | .power => "**"
  | .concat => "~"
  | .within => "in"

/-- The operator does not take values of these kinds. -/
def unsupported (op : Operator) (a b : Value) : Except Error Value :=
  invalid s!"tried to use {op.symbol} operator on unsupported types {a.kind.text} and {b.kind.text}"

/-- The operator has no result for these values. -/
def incalculable (op : Operator) (a b : Value) : Except Error Value :=
  invalid s!"unable to calculate {a.display} {op.symbol} {b.display}"

/-- The quotient that leaves no negative remainder. -/
def quotient? (a b : Int) : Option Int :=
  if b == 0 then none else some (a / b)

def remainder? (a b : Int) : Option Int :=
  if b == 0 then none else some (a % b)

/-- A power; only a base without size has powers of any exponent. -/
def power? (a b : Int) : Option Int :=
  if b < 0 ∨ Decimal.maxUnsigned32 < b then none
  else
    let exponent := if a.natAbs ≤ 1 then (if b == 0 then 0 else 2 - b.toNat % 2) else b.toNat
    if 127 < exponent then none else some (Int.pow a exponent)

/-- An operation on numbers, given what it does to whole ones and to doubles. -/
def arithmetic (op : Operator) (whole : Int → Int → Option Int) (double : Float → Float → Float)
    (a b : Value) : Except Error Value :=
  match Pairing.of? true a b with
  | some (.ints m n) =>
    match (whole m n).bind Number.whole? with
    | some r => .ok (.ofInt r)
    | none => incalculable op a b
  | some (.floats x y) => .ok (.float (double x y))
  | _ => unsupported op a b

def exact (f : Int → Int → Int) (a b : Int) : Option Int :=
  some (f a b)

end Operator

namespace Value

/-- A value whose items are counted one by one. -/
def isCounted : Value → Bool
  | .list _ | .group .. => true
  | .stream _ counted _ => counted
  | _ => false

/-- How many additions in each other put a stream together. -/
def additions : Value → Nat
  | .stream _ _ depth => depth
  | _ => 0

/-- The most additions in each other before their items are put into a list. -/
def additionLimit : Nat := 32

/-- The items of two lists in a row. -/
def joined (a b : Value) (items : List Value) : Value :=
  let depth := max a.additions b.additions + 1
  if additionLimit < depth then .list items
  else .stream items (isCounted a && isCounted b) depth

/-- Texts and lists are put one behind the other. -/
def add (a b : Value) : Except Error Value :=
  match a, b with
  | .text s _, .text t _ => .ok (Value.ofString (s ++ t))
  | a, b =>
    match a.sequence?, b.sequence? with
    | some front, some back => .ok (joined a b (front ++ back))
    | _, _ => Operator.arithmetic .add (Operator.exact (· + ·)) (· + ·) a b

/-- How often something is repeated. -/
def times (v : Value) (what : String) : Except Error Nat :=
  match v.asSize with
  | .ok n => .ok n
  | .error _ => invalid s!"{what} can only be multiplied with integers"

/-- A list so often in a row; nothing stays nothing, however often. -/
def repeated {α : Type} (xs : List α) (n : Nat) : List α :=
  if xs.isEmpty then [] else (List.replicate n xs).flatten

/-- The most bytes that the repetition of a text gives. -/
def repetitionLimit : Nat := 100000000

def repeatText (s : String) (n : Value) : Except Error Value := do
  let n ← times n "strings"
  if s.utf8ByteSize * n ≤ repetitionLimit then .ok (Value.ofString (Text.copies s n))
  else invalid "repeated string is too large"

def repeatItems (v : Value) (items : List Value) (n : Value) : Except Error Value := do
  let n ← times n "sequences and iterables"
  if isCounted v then .ok (ofItems (repeated items n))
  else invalid "cannot repeat unsized iterables"

/-- An object other than a list. -/
def isOtherObject (v : Value) : Bool :=
  match v.kind with
  | .map | .plain => true
  | _ => false

/-- Texts and lists are repeated. -/
def multiply (a b : Value) : Except Error Value :=
  match a.text?, b.text? with
  | some s, _ => repeatText s b
  | Option.none, some t => repeatText t a
  | Option.none, Option.none =>
    match a.sequence?, b.sequence? with
    | some items, _ => repeatItems a items b
    | Option.none, some items =>
      if isOtherObject a then Operator.unsupported .multiply a b else repeatItems b items a
    | Option.none, Option.none => Operator.arithmetic .multiply (Operator.exact (· * ·)) (· * ·) a b

def divide (a b : Value) : Except Error Value :=
  match a.float? true, b.float? true with
  | some x, some y => .ok (.float (x / y))
  | _, _ => Operator.unsupported .divide a b

/-- Whether the value is in the container: a part of a text, a key of a map or an item. -/
def within (v container : Value) : Except Error Value :=
  match container with
  | .undefined => .ok (.bool false)
  | .text s _ => .ok (.bool (Text.occursIn v.display.toList s.toList))
  | c =>
    match c.sequence?, c.entries? with
    | some items, _ => .ok (.bool (items.any (·.same v)))
    | Option.none, some entries => .ok (.bool (entryAt? entries v).isSome)
    | Option.none, Option.none =>
      if c.kind == .plain then .ok (.bool false)
      else invalid "cannot perform a containment check on this value"

/-- The number with the other sign. The number one beyond the bounds of operations, which has the
size of their lowest, stays as it is. -/
def negate : Value → Except Error Value
  | .float x => .ok (.float (-x))
  | .int n form =>
    match Number.whole? n with
    | some _ =>
      match Number.whole? (-n) with
      | some m => .ok (.ofInt m)
      | Option.none => invalid "overflow"
    | Option.none =>
      if n == -Number.minInt then .ok (.int n form) else .error (.plain .invalidOperation)
  | _ => .error (.plain .invalidOperation)

end Value

/-- The value of an operator on two values. -/
def Operator.apply : Operator → Value → Value → Except Error Value
  | .equal, a, b => .ok (.bool (a.same b))
  | .notEqual, a, b => .ok (.bool !(a.same b))
  | .less, a, b => .ok (.bool (a.order b == .lt))
  | .lessEqual, a, b => .ok (.bool (a.order b != .gt))
  | .greater, a, b => .ok (.bool (a.order b == .gt))
  | .greaterEqual, a, b => .ok (.bool (a.order b != .lt))
  | .add, a, b => a.add b
  | .subtract, a, b => Operator.arithmetic .subtract (Operator.exact (· - ·)) (· - ·) a b
  | .multiply, a, b => a.multiply b
  | .divide, a, b => a.divide b
  | .floorDivide, a, b =>
    Operator.arithmetic .floorDivide Operator.quotient? Number.floorQuotient a b
  | .modulo, a, b => Operator.arithmetic .modulo Operator.remainder? Number.remainder a b
  | .power, a, b => Operator.arithmetic .power Operator.power? Float.pow a b
  | .concat, a, b => .ok (Value.ofString (a.display ++ b.display))
  | .within, a, b => a.within b

end FormLetter.Template
