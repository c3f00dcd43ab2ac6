import FormLetter.Render.Engine
import FormLetter.Template.Stmt

/-!
Values of the template language. Loops and namespaces change while a template runs, so a value
only names the cell that holds them.
-/
namespace FormLetter.Template

/-- The form in which a whole number is held; it bounds the number. -/
inductive IntForm where
  | unsigned64
  | signed64
  | unsigned128
  | signed128
  deriving DecidableEq, Repr

namespace IntForm

def low : IntForm → Int
  | .unsigned64 | .unsigned128 => 0
  | .signed64 => Decimal.minSigned64
  | .signed128 => -(Decimal.twoTo 127 : Int)

def high : IntForm → Int
  | .unsigned64 => Decimal.maxUnsigned64
  | .signed64 => Decimal.maxSigned64
  | .unsigned128 => (Decimal.twoTo 128 : Int) - 1
  | .signed128 => (Decimal.twoTo 127 : Int) - 1

end IntForm

/-- A routine that a template defines. -/
structure Routine where
  name : String
  parameters : List Parameter
  body : List Stmt
  /-- The template that defines it. -/
  template : String
  /-- The cell of the names it was defined among. -/
  closure : Option Nat
  /-- The body uses the routine that a call may bring along. -/
  wantsCaller : Bool

/-- The functions that every template can call. -/
inductive Builtin where
  | range
  | dict
  | debug
  | newNamespace
  deriving DecidableEq, Repr

/-- How a map that is made up when it is looked at is shown, and what it was made from. -/
structure ViewForm where
  /-- The text of its own that it may have. -/
  shown : Option String
  /-- Its keys can be met from the last to the first. -/
  turns : Bool
  /-- The cell whose content it is. -/
  cell : Option Nat
  deriving Inhabited

inductive Value where
  | undefined
  | none
  | bool (b : Bool)
  | int (n : Int) (form : IntForm)
  | float (x : Float)
  /-- Text; safe text is not escaped again. -/
  | text (s : String) (safe : Bool)
  | list (items : List Value)
  | map (entries : List (Value × Value))
  /-- A map that is made up when it is looked at. -/
  | view (entries : List (Value × Value)) (form : ViewForm)
  /-- Items that are only iterated over. Their number is not known where they are not counted;
  `depth` is the number of additions in each other that put them together. -/
  | stream (items : List Value) (counted : Bool) (depth : Nat)
  /-- The named arguments of a call. -/
  | named (entries : List (String × Value))
  /-- Values that agree in an attribute. -/
  | group (key : Value) (members : List Value)
  | cell (n : Nat)
  | loop (n : Nat)
  | routine (r : Routine)
  | builtin (b : Builtin)
  /-- What stands in a stream for what it could not give. -/
  | broken (e : Error)
  deriving Inhabited

/-- What messages call a value, in the order in which values of different kinds are sorted. -/
inductive Kind where
  | undefined
  | none
  | bool
  | number
  | string
  | sequence
  | map
  | iterator
  | plain
  | invalid
  deriving DecidableEq, Repr

def Kind.text : Kind → String
  | .undefined => "undefined"
  | .none => "none"
  | .bool => "bool"
  | .number => "number"
  | .string => "string"
  | .sequence => "sequence"
  | .map => "map"
  | .iterator => "iterator"
  | .plain => "plain object"
  | .invalid => "invalid value"

/-- The place of a kind among the kinds. -/
def Kind.rank : Kind → Nat
  | .undefined => 0
  | .none => 1
  | .bool => 2
  | .number => 3
  | .string => 4
  | .sequence => 5
  | .map => 6
  | .iterator => 7
  | .plain => 8
  | .invalid => 9

namespace Value

def kind : Value → Kind
  | .undefined => .undefined
  | .none => .none
  | .bool _ => .bool
  | .int .. | .float _ => .number
  | .text .. => .string
  | .list _ | .group .. => .sequence
  | .map _ | .view .. | .named _ | .cell _ | .loop _ | .routine _ => .map
  | .stream .. => .iterator
  | .builtin _ => .plain
  | .broken _ => .invalid

/-- Text that is escaped where escaping is on. -/
def ofString (s : String) : Value := .text s false

def ofChars (cs : List Char) : Value := .text (String.ofList cs) false

/-- A number of things, or one that is written down. -/
def ofNat (n : Nat) : Value :=
  .int n (if (n : Int) ≤ Decimal.maxUnsigned64 then .unsigned64 else .unsigned128)

/-- A whole number that is computed. -/
def ofInt (n : Int) : Value :=
  .int n (if Decimal.minSigned64 ≤ n ∧ n ≤ Decimal.maxSigned64 then .signed64 else .signed128)

/-- Items whose number is known. -/
def ofItems (items : List Value) : Value := .stream items true 0

def ofLiteral : Literal → Value
  | .none => .none
  | .bool b => .bool b
  | .int n => ofNat n
  | .float x => .float x
  | .text s => ofString s

mutual

/-- Data as a value. -/
def ofJson : Json → Value
  | .null => .none
  | .bool b => .bool b
  | .int n => if n < 0 then ofInt n else ofNat n.toNat
  | .float x => .float x
  | .string s => ofString s
  | .array items => .list (ofJsonItems items)
  | .object members => .map (ofJsonMembers members)

def ofJsonItems : List Json → List Value
  | [] => []
  | j :: rest => ofJson j :: ofJsonItems rest

def ofJsonMembers : List (String × Json) → List (Value × Value)
  | [] => []
  | (name, j) :: rest => (ofString name, ofJson j) :: ofJsonMembers rest

end

def isUndefined : Value → Bool
  | .undefined => true
  | _ => false

def isNone : Value → Bool
  | .none => true
  | _ => false

/-- The text of a text. -/
def text? : Value → Option String
  | .text s _ => some s
  | _ => Option.none

def isSafe : Value → Bool
  | .text _ safe => safe
  | _ => false

/-- What a condition takes the value for. -/
def isTrue : Value → Bool
  | .undefined | .none => false
  | .bool b => b
  | .int n _ => n != 0
  | .float x => x != 0.0
  | .text s _ => !s.isEmpty
  | .list items | .stream items true _ => !items.isEmpty
  | .map entries | .view entries _ => !entries.isEmpty
  | .named entries => !entries.isEmpty
  | _ => true

/-- What templates can ask a routine for. -/
def routineEntries (r : Routine) : List (Value × Value) :=
  [(ofString "name", ofString r.name),
   (ofString "arguments", .list (r.parameters.map fun p => ofString p.name)),
   (ofString "caller", .bool r.wantsCaller)]

/-- The entries of a map. -/
def entries? : Value → Option (List (Value × Value))
  | .map entries | .view entries _ => some entries
  | .named entries => some (entries.map fun (name, v) => (ofString name, v))
  | .routine r => some (routineEntries r)
  | _ => Option.none

/-- The items of a list or a stream. -/
def sequence? : Value → Option (List Value)
  | .list items | .stream items .. => some items
  | .group key members => some [key, ofItems members]
  | _ => Option.none

/-- The items that iteration meets: the keys of a map, the characters of a text, nothing for what
is not there. -/
def items? : Value → Option (List Value)
  | .undefined | .none => some []
  | .text s _ => some (s.toList.map fun c => ofString (String.singleton c))
  | v => v.sequence?.or (v.entries?.map (·.map (·.1)))

/-- The items of a value that is more than a text and not missing. -/
def objectItems? : Value → Option (List Value)
  | .undefined | .none | .text .. => Option.none
  | v => v.items?

end Value

end FormLetter.Template
